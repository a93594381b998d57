import TelegramBotApi.MessageMerge

set_option autoImplicit false

namespace TelegramBotApi.Messages

open Checked Tables
open BotUsernames (ButtonStyle TargetChat InlineKeyboardButtonType InlineKeyboardButton InlineKeyboard)

variable (printTargetChat : TargetChat → String)

-- What the comparison of two button types looks at: the kind, its texts and its
-- number. The identifier and the forward text of a login button are not part of it.
def comparedType : InlineKeyboardButtonType Unit → Nat × String × String × Int
  | .url url => (0, url, "", 0)
  | .loginUrl url _ _ _ => (1, url, "", 0)
  | .callback data => (2, data, "", 0)
  | .callbackWithPassword data => (3, data, "", 0)
  | .callbackGame => (4, "", "", 0)
  | .switchInline query targetChat => (5, query, printTargetChat targetChat, 0)
  | .buy => (6, "", "", 0)
  | .user userId => (7, "", "", userId)
  | .webApp url => (8, url, "", 0)
  | .copyText text => (9, text, "", 0)

def comparedButton (button : InlineKeyboardButton Unit) :
    String × Int64 × ButtonStyle × Nat × String × String × Int :=
  (button.text, button.iconCustomEmojiId, button.style, comparedType printTargetChat button.type)

theorem compares_button_types :
    Slots.Compares (areEqualInlineKeyboardButtonTypes printTargetChat)
      (comparedType printTargetChat) := by
  intro lhs rhs
  cases lhs <;> cases rhs <;> simp [areEqualInlineKeyboardButtonTypes, comparedType]

theorem compares_buttons :
    Slots.Compares (areEqualInlineKeyboardButtons printTargetChat) (comparedButton printTargetChat) := by
  intro lhs rhs
  have types := compares_button_types printTargetChat lhs.type rhs.type
  simp [areEqualInlineKeyboardButtons, comparedButton, types, and_assoc]

theorem compares_inline_keyboards :
    Slots.Compares (areEqualInlineKeyboards printTargetChat)
      (List.map (List.map (comparedButton printTargetChat))) :=
  Slots.compares_pairwise _ _ (Slots.compares_pairwise _ _ (compares_buttons printTargetChat))

theorem compares_suggested_post_prices : Slots.Compares areEqualSuggestedPostPrices id := by
  intro lhs rhs
  cases lhs with
  | none => cases rhs <;> simp [areEqualSuggestedPostPrices]
  | some lhs =>
      cases rhs with
      | none => simp [areEqualSuggestedPostPrices]
      | some rhs => cases lhs <;> cases rhs <;> simp [areEqualSuggestedPostPrices]

theorem compares_suggested_post_infos : Slots.Compares areEqualSuggestedPostInfos id := by
  intro lhs rhs
  have prices := compares_suggested_post_prices lhs.price rhs.price
  cases lhs
  cases rhs
  simp only [id] at prices
  simp only [areEqualSuggestedPostInfos, Bool.and_eq_true, beq_iff_eq, prices, id, SuggestedPostInfo.mk.injEq]
  tauto

def sameSuggestedPostInfo : Option SuggestedPostInfo → Option SuggestedPostInfo → Bool :=
  Slots.optional areEqualSuggestedPostInfos

def sameInlineKeyboard : Option (InlineKeyboard Unit) → Option (InlineKeyboard Unit) → Bool :=
  Slots.optional (areEqualInlineKeyboards printTargetChat)

theorem compares_same_suggested_post_info : Slots.Compares sameSuggestedPostInfo (Option.map id) :=
  Slots.compares_optional _ _ compares_suggested_post_infos

theorem compares_same_inline_keyboard :
    Slots.Compares (sameInlineKeyboard printTargetChat)
      (Option.map (List.map (List.map (comparedButton printTargetChat)))) :=
  Slots.compares_optional _ _ (compares_inline_keyboards printTargetChat)

-- The setters as offers to slots that share the flag of the message.
def MessageInfo.suggestedPostInfoSlot (messageInfo : MessageInfo) : Slots.Slot (Option SuggestedPostInfo) :=
  ⟨messageInfo.suggestedPostInfo, messageInfo.isContentChanged⟩

def MessageInfo.inlineKeyboardSlot (messageInfo : MessageInfo) : Slots.Slot (Option (InlineKeyboard Unit)) :=
  ⟨inlineKeyboard messageInfo.replyMarkup, messageInfo.isContentChanged⟩

def MessageInfo.HasInlineMarkup (messageInfo : MessageInfo) : Prop :=
  messageInfo.replyMarkup = (inlineKeyboard messageInfo.replyMarkup).map .inlineKeyboard

theorem set_suggested_post_info_offers (messageInfo : MessageInfo) (suggestedPostInfo : Option SuggestedPostInfo) :
    setMessageSuggestedPostInfo messageInfo suggestedPostInfo = { messageInfo with
      suggestedPostInfo := (messageInfo.suggestedPostInfoSlot.offer sameSuggestedPostInfo suggestedPostInfo).held
      isContentChanged := (messageInfo.suggestedPostInfoSlot.offer sameSuggestedPostInfo suggestedPostInfo).changed } := by
  obtain ⟨chatId, id, date, editDate, senderTag, content, stored, replyMarkup, _, _, _, changed⟩ := messageInfo
  cases stored with
  | none => cases suggestedPostInfo <;> rfl
  | some old =>
      cases suggestedPostInfo with
      | none => rfl
      | some new =>
          by_cases equal : areEqualSuggestedPostInfos old new = true
          · have reversed := Slots.compares_symm _ _ compares_suggested_post_infos old new equal
            simp [setMessageSuggestedPostInfo, MessageInfo.suggestedPostInfoSlot, Slots.Slot.offer,
              sameSuggestedPostInfo, Slots.optional, equal, reversed]
          · have reversed : ¬ areEqualSuggestedPostInfos new old = true :=
              fun same => equal (Slots.compares_symm _ _ compares_suggested_post_infos new old same)
            simp [setMessageSuggestedPostInfo, MessageInfo.suggestedPostInfoSlot, Slots.Slot.offer,
              sameSuggestedPostInfo, Slots.optional, equal, reversed]

theorem set_reply_markup_offers (messageInfo : MessageInfo) (replyMarkup : Option ReplyMarkup)
    (inline : messageInfo.HasInlineMarkup) :
    setMessageReplyMarkup printTargetChat messageInfo replyMarkup = .ok { messageInfo with
      replyMarkup := (messageInfo.inlineKeyboardSlot.offer (sameInlineKeyboard printTargetChat)
        (inlineKeyboard replyMarkup)).held.map .inlineKeyboard
      isContentChanged := (messageInfo.inlineKeyboardSlot.offer (sameInlineKeyboard printTargetChat)
        (inlineKeyboard replyMarkup)).changed } := by
  obtain ⟨chatId, id, date, editDate, senderTag, content, suggestedPostInfo, stored, _, _, _, changed⟩ := messageInfo
  unfold setMessageReplyMarkup
  cases stored with
  | none => cases inlineKeyboard replyMarkup <;> rfl
  | some old =>
      cases old with
      | inlineKeyboard old =>
          cases inlineKeyboard replyMarkup with
          | none => rfl
          | some new =>
              by_cases equal : areEqualInlineKeyboards printTargetChat old new = true
              · simp [MessageInfo.inlineKeyboardSlot, Slots.Slot.offer, sameInlineKeyboard, Slots.optional,
                  inlineKeyboard, ReplyMarkup.rows, equal]
              · simp [MessageInfo.inlineKeyboardSlot, Slots.Slot.offer, sameInlineKeyboard, Slots.optional,
                  inlineKeyboard, ReplyMarkup.rows, equal]
      | forceReply => cases inline
      | removeKeyboard => cases inline
      | showKeyboard => cases inline

def created (message : Message) : MessageInfo where
  chatId := message.chatId
  id := message.id
  date := message.date
  editDate := message.editDate
  senderTag := message.senderTag
  content := message.content
  suggestedPostInfo := message.suggestedPostInfo
  replyMarkup := (inlineKeyboard message.replyMarkup).map .inlineKeyboard
  isOutgoing := message.isOutgoing
  isSelfDestruct := message.hasSelfDestructType
  isImported := message.hasImportInfo

theorem inline_keyboard_map (rows : Option (InlineKeyboard Unit)) : inlineKeyboard (rows.map .inlineKeyboard) = rows := by
  cases rows <;> rfl

theorem create_message_created (message : Message) : createMessage printTargetChat message = .ok (created message) := by
  unfold createMessage created setMessageReplyMarkup
  cases message.suggestedPostInfo <;> cases inlineKeyboard message.replyMarkup <;> rfl

theorem created_inline (message : Message) : (created message).HasInlineMarkup := by
  rw [MessageInfo.HasInlineMarkup, created, inline_keyboard_map]

structure Merged (old new : MessageInfo) (forceUpdateContent : Bool) (merged : MessageInfo) : Prop where
  fullId : merged.fullId = new.fullId
  inline : merged.HasInlineMarkup
  senderTag : merged.senderTag = new.senderTag
  content : merged.content =
    if forceUpdateContent = true ∨ new.content.type = .messagePoll then new.content else old.content
  suggestedPostInfo : sameSuggestedPostInfo merged.suggestedPostInfo new.suggestedPostInfo = true
  replyMarkup : sameInlineKeyboard printTargetChat (inlineKeyboard merged.replyMarkup) (inlineKeyboard new.replyMarkup) = true
  suggestedPostInfoKept : sameSuggestedPostInfo old.suggestedPostInfo new.suggestedPostInfo = true →
    merged.suggestedPostInfo = old.suggestedPostInfo
  replyMarkupKept : sameInlineKeyboard printTargetChat (inlineKeyboard old.replyMarkup) (inlineKeyboard new.replyMarkup) =
    true → inlineKeyboard merged.replyMarkup = inlineKeyboard old.replyMarkup
  changed : merged.isContentChanged = true ↔ old.isContentChanged = true ∨ forceUpdateContent = true ∨
    old.senderTag ≠ new.senderTag ∨ sameSuggestedPostInfo old.suggestedPostInfo new.suggestedPostInfo = false ∨
    sameInlineKeyboard printTargetChat (inlineKeyboard old.replyMarkup) (inlineKeyboard new.replyMarkup) = false

theorem merge_message_merged (old new : MessageInfo) (forceUpdateContent : Bool) (inline : old.HasInlineMarkup) :
    ∃ merged, mergeMessage printTargetChat old new forceUpdateContent = .ok merged ∧
      Merged printTargetChat old new forceUpdateContent merged := by
  simp only [mergeMessage, set_suggested_post_info_offers]
  rw [set_reply_markup_offers]
  · refine ⟨_, rfl, ?_⟩
    have infos := compares_same_suggested_post_info
    have keyboards := compares_same_inline_keyboard printTargetChat
    exact {
      fullId := rfl
      inline := by rw [MessageInfo.HasInlineMarkup, inline_keyboard_map]
      senderTag := rfl
      content := by cases forceUpdateContent <;> simp
      suggestedPostInfo := Slots.offer_same _ _ infos _ _
      replyMarkup := by
        simp only [inline_keyboard_map]
        exact Slots.offer_same _ _ keyboards _ _
      suggestedPostInfoKept := fun equal => congrArg Slots.Slot.held (Slots.offer_kept _ _ _ equal)
      replyMarkupKept := fun equal => by
        simp only [inline_keyboard_map]
        exact congrArg Slots.Slot.held (Slots.offer_kept _ _ _ equal)
      changed := by
        simp only [Slots.offer_changed, MessageInfo.suggestedPostInfoSlot, MessageInfo.inlineKeyboardSlot,
          Bool.or_eq_true, bne_iff_ne]
        tauto }
  · exact inline

inductive Event where
  | added (message : Message) (forceUpdateContent : Bool)
  | emitted (fullId : MessageFullId)
  | contentUpdated (fullId : MessageFullId) (content : MessageContent)
  | suggestedPostInfoUpdated (fullId : MessageFullId) (suggestedPostInfo : Option SuggestedPostInfo)
  | edited (fullId : MessageFullId) (editDate : Int) (replyMarkup : Option ReplyMarkup)
  | deleted (fullId : MessageFullId)
deriving DecidableEq

def Event.fullId : Event → MessageFullId
  | .added message _ => message.fullId
  | .emitted fullId | .contentUpdated fullId _ | .suggestedPostInfoUpdated fullId _ | .edited fullId _ _
  | .deleted fullId => fullId

def step (messages : MessageTable) : Event → Except Check MessageTable
  | .added message forceUpdateContent => do
      let newMessageInfo ← createMessage printTargetChat message
      addMessage printTargetChat messages newMessageInfo forceUpdateContent
  | .emitted fullId => resetContentChanged messages fullId
  | .contentUpdated fullId content => updateMessageContent messages fullId content
  | .suggestedPostInfoUpdated fullId suggestedPostInfo => onUpdateMessageSuggestedPostInfo messages fullId suggestedPostInfo
  | .edited fullId editDate replyMarkup => onUpdateMessageEdited printTargetChat messages fullId editDate replyMarkup
  | .deleted fullId => .ok (messages.erase fullId)

-- An update shows a stored message.
def enabled (messages : MessageTable) : Event → Prop
  | .emitted fullId => fullId ∈ messages
  | _ => True

def machine : Transition.Machine MessageTable Event Check where
  start messages := messages = ∅
  enabled := enabled
  step := step printTargetChat

instance (messages : MessageTable) : (event : Event) → Decidable (enabled messages event)
  | .emitted fullId => inferInstanceAs (Decidable (fullId ∈ messages))
  | .added _ _ | .contentUpdated _ _ | .suggestedPostInfoUpdated _ _ | .edited _ _ _ | .deleted _ => isTrue trivial

instance (messages : MessageTable) (event : Event) : Decidable ((machine printTargetChat).enabled messages event) :=
  inferInstanceAs (Decidable (enabled messages event))

def AllInline (messages : MessageTable) : Prop :=
  ∀ fullId messageInfo, messages.lookup fullId = some messageInfo → messageInfo.HasInlineMarkup

structure StoredAs (old : Option MessageInfo) (message : Message) (forceUpdateContent : Bool) (stored : MessageInfo) :
    Prop where
  fullId : stored.fullId = message.fullId
  senderTag : stored.senderTag = message.senderTag
  suggestedPostInfo : sameSuggestedPostInfo stored.suggestedPostInfo message.suggestedPostInfo = true
  replyMarkup : sameInlineKeyboard printTargetChat (inlineKeyboard stored.replyMarkup)
    (inlineKeyboard message.replyMarkup) = true
  first : old = none → stored.content = message.content ∧ stored.isContentChanged = true
  content : ∀ messageInfo, old = some messageInfo → stored.content =
    if forceUpdateContent = true ∨ message.content.type = .messagePoll then message.content else messageInfo.content
  changed : ∀ messageInfo, old = some messageInfo →
    (stored.isContentChanged = true ↔ messageInfo.isContentChanged = true ∨ forceUpdateContent = true ∨
      messageInfo.senderTag ≠ message.senderTag ∨
      sameSuggestedPostInfo messageInfo.suggestedPostInfo message.suggestedPostInfo = false ∨
      sameInlineKeyboard printTargetChat (inlineKeyboard messageInfo.replyMarkup)
        (inlineKeyboard message.replyMarkup) = false)

-- The part of a stored message that is_content_changed watches.
structure Shown where
  senderTag : String
  suggestedPostInfo : Option SuggestedPostInfo
  keyboard : Option (InlineKeyboard Unit)
deriving DecidableEq

def MessageInfo.shown (messageInfo : MessageInfo) : Shown :=
  ⟨messageInfo.senderTag, messageInfo.suggestedPostInfo, inlineKeyboard messageInfo.replyMarkup⟩

def Message.shown (message : Message) : Shown :=
  ⟨message.senderTag, message.suggestedPostInfo, inlineKeyboard message.replyMarkup⟩

def Shown.Same (first last : Shown) : Prop :=
  first.senderTag = last.senderTag ∧ sameSuggestedPostInfo first.suggestedPostInfo last.suggestedPostInfo = true ∧
    sameInlineKeyboard printTargetChat first.keyboard last.keyboard = true

instance (first last : Shown) : Decidable (first.Same printTargetChat last) :=
  inferInstanceAs (Decidable (_ ∧ _ ∧ _))

def Event.Repeats (shown : Shown) : Event → Prop
  | .added message forceUpdateContent => forceUpdateContent = false ∧ shown.Same printTargetChat message.shown
  | .suggestedPostInfoUpdated _ suggestedPostInfo => sameSuggestedPostInfo shown.suggestedPostInfo suggestedPostInfo = true
  | .edited _ _ replyMarkup => sameInlineKeyboard printTargetChat shown.keyboard (inlineKeyboard replyMarkup) = true
  | .emitted _ | .contentUpdated _ _ | .deleted _ => False

theorem same_symm (first last : Shown) (same : first.Same printTargetChat last) : last.Same printTargetChat first :=
  ⟨same.1.symm, Slots.compares_symm _ _ compares_same_suggested_post_info _ _ same.2.1,
    Slots.compares_symm _ _ (compares_same_inline_keyboard printTargetChat) _ _ same.2.2⟩

theorem same_trans (first middle last : Shown) (begins : first.Same printTargetChat middle)
    (ends : middle.Same printTargetChat last) : first.Same printTargetChat last :=
  ⟨begins.1.trans ends.1, Slots.compares_trans _ _ compares_same_suggested_post_info _ _ _ begins.2.1 ends.2.1,
    Slots.compares_trans _ _ (compares_same_inline_keyboard printTargetChat) _ _ _ begins.2.2 ends.2.2⟩

theorem stored_as_merged (old : MessageInfo) (message : Message) (forceUpdateContent : Bool) (merged : MessageInfo)
    (merges : Merged printTargetChat old (created message) forceUpdateContent merged) :
    StoredAs printTargetChat (some old) message forceUpdateContent merged where
  fullId := merges.fullId
  senderTag := merges.senderTag
  suggestedPostInfo := merges.suggestedPostInfo
  replyMarkup := by simpa only [created, inline_keyboard_map] using merges.replyMarkup
  first missing := by cases missing
  content messageInfo same := by
    cases same
    exact merges.content
  changed messageInfo same := by
    cases same
    simpa only [created, inline_keyboard_map] using merges.changed

theorem stored_as_created (message : Message) (forceUpdateContent : Bool) :
    StoredAs printTargetChat none message forceUpdateContent (created message) where
  fullId := rfl
  senderTag := rfl
  suggestedPostInfo := Slots.compares_refl _ _ compares_same_suggested_post_info _
  replyMarkup := by
    simp only [created, inline_keyboard_map]
    exact Slots.compares_refl _ _ (compares_same_inline_keyboard printTargetChat) _
  first _ := ⟨rfl, rfl⟩
  content _ same := by cases same
  changed _ same := by cases same

theorem step_added (messages : MessageTable) (message : Message) (forceUpdateContent : Bool)
    (inline : AllInline messages) :
    ∃ stored, step printTargetChat messages (.added message forceUpdateContent) = .ok (messages.insert message.fullId stored) ∧
      stored.HasInlineMarkup ∧
      StoredAs printTargetChat (messages.lookup message.fullId) message forceUpdateContent stored ∧
      ∀ old, messages.lookup message.fullId = some old →
        Merged printTargetChat old (created message) forceUpdateContent stored := by
  change ∃ stored, (createMessage printTargetChat message >>= _) = _ ∧ _
  rw [create_message_created, ok_bind]
  cases found : messages.lookup message.fullId with
  | none =>
      have missing : messages.lookup (created message).fullId = none := found
      refine ⟨created message, by rw [addMessage, missing]; rfl, created_inline message, ?_, fun _ same => by cases same⟩
      exact stored_as_created printTargetChat message forceUpdateContent
  | some old =>
      have present : messages.lookup (created message).fullId = some old := found
      obtain ⟨merged, done, merges⟩ :=
        merge_message_merged printTargetChat old (created message) forceUpdateContent (inline _ _ found)
      refine ⟨merged, by rw [addMessage, present]; simp only [done, ok_bind]; rfl, merges.inline, ?_, fun other same => ?_⟩
      · exact stored_as_merged printTargetChat old message forceUpdateContent merged merges
      · cases same
        exact merges

def LeftUnmarked (event : Event) (old new : MessageInfo) : Prop :=
  (event = .emitted event.fullId ∨ old.isContentChanged = false ∧ event.Repeats printTargetChat old.shown) ∧
    new.shown = old.shown

structure Effect (messages : MessageTable) (event : Event) (after : MessageTable) : Prop where
  inline : AllInline after
  others : ∀ other, other ≠ event.fullId → after.lookup other = messages.lookup other
  unmarked : ∀ new, after.lookup event.fullId = some new → new.isContentChanged = false →
    ∃ old, messages.lookup event.fullId = some old ∧ LeftUnmarked printTargetChat event old new

theorem all_inline_insert (messages : MessageTable) (fullId : MessageFullId) (messageInfo : MessageInfo)
    (inline : AllInline messages) (stored : messageInfo.HasInlineMarkup) : AllInline (messages.insert fullId messageInfo) := by
  intro other found same
  rw [lookup_insert] at same
  split at same
  · cases same
    exact stored
  · exact inline other found same

theorem effect_insert (messages : MessageTable) (event : Event) (new : MessageInfo) (inline : AllInline messages)
    (stored : new.HasInlineMarkup) (unmarked : new.isContentChanged = false →
      ∃ old, messages.lookup event.fullId = some old ∧ LeftUnmarked printTargetChat event old new) :
    Effect printTargetChat messages event (messages.insert event.fullId new) where
  inline := all_inline_insert messages event.fullId new inline stored
  others other different := by rw [lookup_insert, if_neg different]
  unmarked found same quiet := by
    rw [lookup_insert, if_pos rfl] at same
    cases same
    exact unmarked quiet

theorem change_message_effect (messages : MessageTable) (event : Event) (change : MessageInfo → Except Check MessageInfo)
    (inline : AllInline messages)
    (changes : ∀ old, old.HasInlineMarkup → ∃ new, change old = .ok new ∧ new.HasInlineMarkup ∧
      (new.isContentChanged = false → LeftUnmarked printTargetChat event old new)) :
    ∃ after, changeMessage messages event.fullId change = .ok after ∧ Effect printTargetChat messages event after := by
  unfold changeMessage
  cases found : messages.lookup event.fullId with
  | none =>
      refine ⟨messages, rfl, inline, fun _ _ => rfl, fun new same _ => ?_⟩
      rw [found] at same
      cases same
  | some old =>
      obtain ⟨new, done, stored, unmarked⟩ := changes old (inline _ _ found)
      refine ⟨messages.insert event.fullId new, by simp only [done, ok_bind]; rfl, ?_⟩
      exact effect_insert printTargetChat messages event new inline stored (fun quiet => ⟨old, found, unmarked quiet⟩)

theorem offer_unmarked {α : Type} (same : α → α → Bool) (slot : Slots.Slot α) (offered : α)
    (unmarked : (slot.offer same offered).changed = false) :
    slot.changed = false ∧ same slot.held offered = true ∧ (slot.offer same offered).held = slot.held := by
  have quiet := mt (Slots.offer_changed same slot offered).2 (Bool.eq_false_iff.1 unmarked)
  simp only [not_or, Bool.not_eq_true, Bool.not_eq_false] at quiet
  exact ⟨quiet.1, quiet.2, congrArg Slots.Slot.held (Slots.offer_kept same slot offered quiet.2)⟩

theorem merged_unmarked (old new merged : MessageInfo) (forceUpdateContent : Bool)
    (merges : Merged printTargetChat old new forceUpdateContent merged) (unmarked : merged.isContentChanged = false) :
    old.isContentChanged = false ∧ forceUpdateContent = false ∧ old.shown.Same printTargetChat new.shown ∧
      merged.shown = old.shown := by
  have quiet := mt merges.changed.2 (Bool.eq_false_iff.1 unmarked)
  simp only [not_or, Bool.not_eq_true, Bool.not_eq_false, not_not] at quiet
  obtain ⟨unmarkedBefore, unforced, sameTag, sameInfo, sameKeyboard⟩ := quiet
  refine ⟨unmarkedBefore, unforced, ⟨sameTag, sameInfo, sameKeyboard⟩, ?_⟩
  rw [MessageInfo.shown, MessageInfo.shown, merges.senderTag, merges.suggestedPostInfoKept sameInfo,
    merges.replyMarkupKept sameKeyboard, sameTag]

theorem step_effect (messages : MessageTable) (event : Event) (inline : AllInline messages) :
    ∃ after, step printTargetChat messages event = .ok after ∧ Effect printTargetChat messages event after := by
  cases event with
  | added message forceUpdateContent =>
      obtain ⟨stored, done, inlineStored, storedAs, merges⟩ :=
        step_added printTargetChat messages message forceUpdateContent inline
      refine ⟨_, done, ?_⟩
      refine effect_insert printTargetChat messages (.added message forceUpdateContent) stored inline inlineStored ?_
      intro unmarked
      cases found : messages.lookup message.fullId with
      | none => simp [(storedAs.first found).2] at unmarked
      | some old =>
          obtain ⟨unmarkedBefore, unforced, same, shown⟩ :=
            merged_unmarked printTargetChat old (created message) stored forceUpdateContent (merges old found) unmarked
          refine ⟨old, found, .inr ⟨unmarkedBefore, unforced, ?_⟩, shown⟩
          simpa only [MessageInfo.shown, Message.shown, created, inline_keyboard_map] using same
  | emitted fullId =>
      apply change_message_effect printTargetChat messages (.emitted fullId) _ inline
      intro old stored
      exact ⟨_, rfl, stored, fun _ => ⟨.inl rfl, rfl⟩⟩
  | contentUpdated fullId content =>
      apply change_message_effect printTargetChat messages (.contentUpdated fullId content) _ inline
      intro old stored
      exact ⟨_, rfl, stored, fun unmarked => by cases unmarked⟩
  | suggestedPostInfoUpdated fullId suggestedPostInfo =>
      apply change_message_effect printTargetChat messages (.suggestedPostInfoUpdated fullId suggestedPostInfo) _ inline
      intro old stored
      refine ⟨_, congrArg Except.ok (set_suggested_post_info_offers old suggestedPostInfo), stored, fun unmarked => ?_⟩
      obtain ⟨before, same, kept⟩ := offer_unmarked _ _ _ unmarked
      refine ⟨.inr ⟨before, same⟩, ?_⟩
      simp only [MessageInfo.shown, kept]
      rfl
  | edited fullId editDate replyMarkup =>
      apply change_message_effect printTargetChat messages (.edited fullId editDate replyMarkup) _ inline
      intro old stored
      refine ⟨_, set_reply_markup_offers printTargetChat { old with editDate := editDate } replyMarkup stored, ?_,
        fun unmarked => ?_⟩
      · rw [MessageInfo.HasInlineMarkup, inline_keyboard_map]
      · obtain ⟨before, same, kept⟩ := offer_unmarked _ _ _ unmarked
        refine ⟨.inr ⟨before, same⟩, ?_⟩
        simp only [MessageInfo.shown, kept, inline_keyboard_map]
        rfl
  | deleted fullId =>
      refine ⟨messages.erase fullId, rfl, ?_, fun other different => ?_, fun new same => ?_⟩
      · intro other found same
        rw [lookup_erase] at same
        split at same
        · cases same
        · exact inline other found same
      · rw [lookup_erase]
        exact if_neg different
      · rw [lookup_erase, Event.fullId, if_pos rfl] at same
        cases same

open Transition (Reach Recorded unrestricted)

theorem all_inline_of_reach (messages : MessageTable) (reached : Reach (machine printTargetChat) unrestricted messages) :
    AllInline messages := by
  refine Transition.reach_meets (machine printTargetChat) unrestricted (fun _ => False) AllInline ?_ ?_ messages reached
  · intro messages first fullId messageInfo found
    cases first
    cases found
  · intro before event inline _ _
    obtain ⟨after, done, effect⟩ := step_effect printTargetChat before event inline
    change Meets _ _ (step printTargetChat before event)
    rw [done]
    exact effect.inline

abbrev Run := Recorded MessageTable Event

def RecordedRun (run : Run) : Prop :=
  Reach (machine printTargetChat).recording unrestricted run

theorem reach_of_recorded (run : Run) (recorded : RecordedRun printTargetChat run) :
    Reach (machine printTargetChat) unrestricted run.state := by
  induction recorded with
  | start run first => exact .start run.state first.1
  | next before after event _ offered condition done ih =>
      change ((machine printTargetChat).step before.state event >>= _) = _ at done
      cases stepped : (machine printTargetChat).step before.state event with
      | error fault =>
          rw [stepped] at done
          cases done
      | ok state =>
          rw [stepped] at done
          cases done
          exact .next before.state state event ih offered trivial stepped

-- The events since the last update that showed the message, which showed the
-- value given: all those on the message repeated it.
def RepeatedSinceShown (events : List Event) (fullId : MessageFullId) (shown : Shown) : Prop :=
  ∃ earlier messages old later, RecordedRun printTargetChat ⟨messages, earlier⟩ ∧ messages.lookup fullId = some old ∧
    old.shown = shown ∧ events = earlier ++ .emitted fullId :: later ∧
    ∀ event ∈ later, event.fullId = fullId → event.Repeats printTargetChat shown

theorem repeated_append (events : List Event) (fullId : MessageFullId) (shown : Shown) (event : Event)
    (repeated : RepeatedSinceShown printTargetChat events fullId shown)
    (repeats : event.fullId = fullId → event.Repeats printTargetChat shown) :
    RepeatedSinceShown printTargetChat (events ++ [event]) fullId shown := by
  obtain ⟨earlier, messages, old, later, recorded, found, same, split, all⟩ := repeated
  refine ⟨earlier, messages, old, later ++ [event], recorded, found, same, by rw [split, List.append_assoc]; rfl, ?_⟩
  intro other member
  rcases List.mem_append.1 member with before | last
  · exact all other before
  · cases List.mem_singleton.1 last
    exact repeats

def HistoryKept (run : Run) : Prop :=
  ∀ fullId messageInfo, run.state.lookup fullId = some messageInfo → messageInfo.isContentChanged = false →
    RepeatedSinceShown printTargetChat run.events fullId messageInfo.shown

theorem step_history (before : Run) (event : Event) (after : MessageTable) (recorded : RecordedRun printTargetChat before)
    (kept : HistoryKept printTargetChat before) (effect : Effect printTargetChat before.state event after) :
    HistoryKept printTargetChat ⟨after, before.events ++ [event]⟩ := by
  intro fullId messageInfo found unmarked
  by_cases own : fullId = event.fullId
  · subst own
    obtain ⟨old, foundBefore, cause, sameShown⟩ := effect.unmarked messageInfo found unmarked
    rw [sameShown]
    rcases cause with emitted | ⟨unmarkedBefore, repeats⟩
    · refine ⟨before.events, before.state, old, [], recorded, foundBefore, rfl, by rw [← emitted], ?_⟩
      intro other member
      cases member
    · exact repeated_append printTargetChat _ _ _ event (kept _ old foundBefore unmarkedBefore) (fun _ => repeats)
  · rw [effect.others fullId own] at found
    exact repeated_append printTargetChat _ _ _ event (kept fullId messageInfo found unmarked)
      (fun same => absurd same.symm own)

theorem history_of_recorded (run : Run) (recorded : RecordedRun printTargetChat run) : HistoryKept printTargetChat run := by
  refine (Transition.reach_invariant (machine printTargetChat).recording unrestricted
    (fun run => RecordedRun printTargetChat run ∧ HistoryKept printTargetChat run) ?_ ?_ run recorded).2
  · intro run first
    refine ⟨.start run first, fun fullId messageInfo found => ?_⟩
    obtain ⟨state, events⟩ := run
    cases first.1
    cases found
  · intro before after event held offered _ done
    refine ⟨.next before after event held.1 offered trivial done, ?_⟩
    have inline := all_inline_of_reach printTargetChat _ (reach_of_recorded printTargetChat before held.1)
    obtain ⟨state, stepped, effect⟩ := step_effect printTargetChat before.state event inline
    change (step printTargetChat before.state event >>= _) = _ at done
    rw [stepped] at done
    cases done
    exact step_history printTargetChat before event state held.1 held.2 effect

structure Processes (messages : MessageTable) (message : Message) (isEdited : Bool) (surroundings : Surroundings)
    (after : MessageTable) (shown : Option MessageInfo) (added : MessageTable) (stored : MessageInfo) : Prop where
  steps : step printTargetChat messages (.added message false) = .ok added
  found : added.lookup message.fullId = some stored
  fullId : stored.fullId = message.fullId
  skips : needSkipUpdateMessage added surroundings message.chatId stored isEdited = .ok shown.isNone
  skipped : shown = none → after = added
  emitted : ∀ messageInfo, shown = some messageInfo →
    messageInfo = stored ∧ step printTargetChat added (.emitted message.fullId) = .ok after

theorem process_new_message_processes (messages : MessageTable) (message : Message) (isEdited : Bool)
    (surroundings : Surroundings) (after : MessageTable) (shown : Option MessageInfo) (inline : AllInline messages)
    (processed : processNewMessage printTargetChat messages message isEdited surroundings = .ok (after, shown)) :
    ∃ added stored, Processes printTargetChat messages message isEdited surroundings after shown added stored := by
  obtain ⟨stored, done, inlineStored, storedAs, _⟩ := step_added printTargetChat messages message false inline
  have stepped : addMessage printTargetChat messages (created message) false = .ok (messages.insert message.fullId stored) := by
    rw [← done, step, create_message_created, ok_bind]
  have found : (messages.insert message.fullId stored).lookup message.fullId = some stored := AList.lookup_insert messages
  rw [processNewMessage, create_message_created, ok_bind, stepped, ok_bind, found] at processed
  simp only [Option.elim_some, pure_bind] at processed
  refine ⟨messages.insert message.fullId stored, stored, ?_⟩
  cases skips : needSkipUpdateMessage (messages.insert message.fullId stored) surroundings message.chatId stored isEdited with
  | error fault =>
      rw [skips] at processed
      cases processed
  | ok skip =>
      rw [skips, ok_bind] at processed
      cases skip with
      | true =>
          cases processed
          exact ⟨done, found, storedAs.fullId, skips, fun _ => rfl, fun _ same => by cases same⟩
      | false =>
          have inlineAdded := all_inline_insert messages message.fullId stored inline inlineStored
          obtain ⟨last, emitted, _⟩ := step_effect printTargetChat _ (.emitted message.fullId) inlineAdded
          have resets : resetContentChanged (messages.insert message.fullId stored) message.fullId = .ok last := emitted
          simp only [Bool.false_eq_true, if_false, resets, ok_bind] at processed
          cases processed
          refine ⟨done, found, storedAs.fullId, skips, fun missing => (by cases missing), fun _ same => ?_⟩
          cases same
          exact ⟨rfl, emitted⟩

theorem skipped_unmarked (messages : MessageTable) (surroundings : Surroundings) (chatId : Int) (messageInfo : MessageInfo)
    (isEdited : Bool) (undecided : decidesToSkip surroundings chatId messageInfo = .ok none)
    (skipped : needSkipUpdateMessage messages surroundings chatId messageInfo isEdited = .ok true) :
    ∃ old, messages.lookup (chatId, messageInfo.id) = some old ∧ old.isContentChanged = false := by
  rw [needSkipUpdateMessage, undecided, ok_bind] at skipped
  by_cases edited : isEdited = true ∧ chatId ≠ 0
  · simp only [edited, ne_eq, not_false_eq_true, and_self, if_true, getMessage] at skipped
    by_cases missingId : messageInfo.id = 0
    · rw [if_pos missingId] at skipped
      cases skipped
    · rw [if_neg missingId] at skipped
      cases found : messages.lookup (chatId, messageInfo.id) with
      | none =>
          rw [found] at skipped
          cases skipped
      | some old =>
          rw [found] at skipped
          refine ⟨old, rfl, ?_⟩
          simpa using Except.ok.inj skipped
  · simp only [if_neg edited] at skipped
    cases skipped

def UnchangedSinceShown (events : List Event) (message : Message) (shown : Shown) : Prop :=
  shown.Same printTargetChat message.shown ∧
    ∃ earlier messages old later, RecordedRun printTargetChat ⟨messages, earlier⟩ ∧
      messages.lookup message.fullId = some old ∧ old.shown = shown ∧ events = earlier ++ .emitted message.fullId :: later ∧
      (∀ event ∈ later, event.fullId = message.fullId → event.Repeats printTargetChat shown) ∧
      ∀ other forceUpdateContent, .added other forceUpdateContent ∈ later → other.fullId = message.fullId →
        forceUpdateContent = false ∧ other.shown.Same printTargetChat message.shown

theorem unchanged_of_repeated (events : List Event) (message : Message) (shown : Shown)
    (repeated : RepeatedSinceShown printTargetChat events message.fullId shown)
    (same : shown.Same printTargetChat message.shown) : UnchangedSinceShown printTargetChat events message shown := by
  obtain ⟨earlier, messages, old, later, recorded, found, sameShown, split, all⟩ := repeated
  refine ⟨same, earlier, messages, old, later, recorded, found, sameShown, split, all, ?_⟩
  intro other forceUpdateContent member own
  obtain ⟨unforced, repeats⟩ := all _ member own
  exact ⟨unforced, same_trans printTargetChat _ _ _ (same_symm printTargetChat _ _ repeats) same⟩

theorem skipped_edit_unchanged (run : Run) (message : Message) (surroundings : Surroundings) (after : MessageTable)
    (stored : MessageInfo) (recorded : RecordedRun printTargetChat run)
    (processed : processNewMessage printTargetChat run.state message true surroundings = .ok (after, none))
    (found : after.lookup message.fullId = some stored)
    (undecided : decidesToSkip surroundings message.chatId stored = .ok none) :
    UnchangedSinceShown printTargetChat run.events message stored.shown := by
  have inline := all_inline_of_reach printTargetChat _ (reach_of_recorded printTargetChat run recorded)
  obtain ⟨added, storedAdded, processes⟩ :=
    process_new_message_processes printTargetChat run.state message true surroundings after none inline processed
  cases processes.skipped rfl
  cases Option.some.inj (found.symm.trans processes.found)
  have fullId : (message.chatId, stored.id) = message.fullId := by
    rw [Message.fullId, ← (Prod.mk.inj processes.fullId).2]
  obtain ⟨old, foundOld, unmarked⟩ := skipped_unmarked _ _ _ _ _ undecided processes.skips
  rw [fullId] at foundOld
  cases Option.some.inj (found.symm.trans foundOld)
  obtain ⟨state, stepped, effect⟩ := step_effect printTargetChat run.state (.added message false) inline
  cases Except.ok.inj (processes.steps.symm.trans stepped)
  obtain ⟨before, foundBefore, cause, sameShown⟩ := effect.unmarked stored found unmarked
  rcases cause with emitted | ⟨unmarkedBefore, _, repeats⟩
  · cases emitted
  · rw [sameShown]
    have repeated := history_of_recorded printTargetChat run recorded message.fullId before foundBefore unmarkedBefore
    exact unchanged_of_repeated printTargetChat run.events message before.shown repeated repeats

theorem messages_merged :
    (∀ messages message forceUpdateContent, Reach (machine printTargetChat) unrestricted messages →
      ∃ stored, step printTargetChat messages (.added message forceUpdateContent) =
          .ok (messages.insert message.fullId stored) ∧
        StoredAs printTargetChat (messages.lookup message.fullId) message forceUpdateContent stored) ∧
    ∀ (run : Run) message surroundings after stored, RecordedRun printTargetChat run →
      processNewMessage printTargetChat run.state message true surroundings = .ok (after, none) →
      after.lookup message.fullId = some stored → decidesToSkip surroundings message.chatId stored = .ok none →
      UnchangedSinceShown printTargetChat run.events message stored.shown := by
  refine ⟨fun messages message forceUpdateContent reached => ?_, skipped_edit_unchanged printTargetChat⟩
  have inline := all_inline_of_reach printTargetChat messages reached
  obtain ⟨stored, done, _, storedAs, _⟩ := step_added printTargetChat messages message forceUpdateContent inline
  exact ⟨stored, done, storedAs⟩

section Examples

def printTargetChatName : TargetChat → String
  | .current => "targetChatCurrent"
  | .chosen _ _ _ _ => "targetChatChosen"

def loginMessage (id : Int) (editDate : Int) (buttonText : String) : Message where
  chatId := 7
  id := 1
  date := 1000
  editDate := editDate
  content := ⟨.other "messageText", "hello"⟩
  replyMarkup := some (.inlineKeyboard [[⟨buttonText, 0, .default, .loginUrl "https://t.me" id "" ()⟩]])

def inPrivateChat (unixTime : Int) : Surroundings := { chat := some .privateChat, unixTime := unixTime }

def skipsUndecided (messages : MessageTable) (message : Message) (surroundings : Surroundings) : Bool :=
  match processNewMessage printTargetChatName messages message true surroundings with
  | .ok (after, none) => (after.lookup message.fullId).any (fun stored =>
      match decidesToSkip surroundings message.chatId stored with
      | .ok none => true
      | _ => false)
  | _ => false

def skips (messages : MessageTable) (message : Message) (surroundings : Surroundings) : Bool :=
  match processNewMessage printTargetChatName messages message true surroundings with
  | .ok (_, none) => true
  | _ => false

theorem skips_spec (messages : MessageTable) (message : Message) (surroundings : Surroundings)
    (skipped : skips messages message surroundings = true) :
    ∃ after, processNewMessage printTargetChatName messages message true surroundings = .ok (after, none) := by
  unfold skips at skipped
  split at skipped
  · rename_i after processed
    exact ⟨after, processed⟩
  · cases skipped

theorem skips_undecided_spec (messages : MessageTable) (message : Message) (surroundings : Surroundings)
    (skips : skipsUndecided messages message surroundings = true) :
    ∃ after stored, processNewMessage printTargetChatName messages message true surroundings = .ok (after, none) ∧
      after.lookup message.fullId = some stored ∧ decidesToSkip surroundings message.chatId stored = .ok none := by
  unfold skipsUndecided at skips
  split at skips
  · rename_i after processed
    obtain ⟨stored, found, undecided⟩ := Option.any_eq_true _ _ |>.1 skips
    split at undecided
    · rename_i decided
      exact ⟨after, stored, processed, found, decided⟩
    · cases undecided
  · cases skips

-- The same keyboard with another login identifier is not reported again.
theorem messages_merged_login :
    ∃ (run : Run) (after : MessageTable) (stored first : MessageInfo),
      RecordedRun printTargetChatName run ∧
      processNewMessage printTargetChatName run.state (loginMessage 2 1100 "Log in") true (inPrivateChat 1200) =
        .ok (after, none) ∧
      UnchangedSinceShown printTargetChatName run.events (loginMessage 2 1100 "Log in") stored.shown ∧
      StoredAs printTargetChatName none (loginMessage 1 0 "Log in") false first := by
  obtain ⟨run, recorded, skips⟩ := Transition.exists_reach (machine printTargetChatName).recording unrestricted
    (fun run => skipsUndecided run.state (loginMessage 2 1100 "Log in") (inPrivateChat 1200) = true) ⟨∅, []⟩ ⟨rfl, rfl⟩
    [.added (loginMessage 1 0 "Log in") false, .emitted (7, 1)] (by decide +kernel)
  obtain ⟨after, stored, processed, found, undecided⟩ := skips_undecided_spec _ _ _ skips
  obtain ⟨first, _, storedAs⟩ := (messages_merged printTargetChatName).1 ∅ (loginMessage 1 0 "Log in") false (.start ∅ rfl)
  exact ⟨run, after, stored, first, recorded, processed,
    (messages_merged printTargetChatName).2 run _ _ after stored recorded processed found undecided, storedAs⟩

-- An edit of more than a day ago is skipped although it changed the keyboard.
theorem old_edit_skipped :
    ∃ (before messages after : MessageTable) (old : MessageInfo),
      Reach (machine printTargetChatName) unrestricted before ∧ before.lookup (7, 1) = some old ∧
      step printTargetChatName before (.emitted (7, 1)) = .ok messages ∧
      processNewMessage printTargetChatName messages (loginMessage 1 1100 "Enter") true (inPrivateChat 90000) =
        .ok (after, none) ∧
      ¬ old.shown.Same printTargetChatName (loginMessage 1 1100 "Enter").shown := by
  obtain ⟨before, messages, reached, ⟨_, _, last, emitted, same⟩, changed, skips⟩ :=
    Transition.exists_run (machine printTargetChatName) unrestricted (fun before messages =>
      (before.lookup (7, 1)).any (fun old => !decide (old.shown.Same printTargetChatName (loginMessage 1 1100 "Enter").shown))
        = true ∧ skips messages (loginMessage 1 1100 "Enter") (inPrivateChat 90000) = true) ∅ rfl
      [.added (loginMessage 1 0 "Log in") false] [.emitted (7, 1)] (by decide +kernel)
  cases same
  obtain ⟨old, found, changed⟩ := Option.any_eq_true _ _ |>.1 changed
  obtain ⟨after, processed⟩ := skips_spec _ _ _ skips
  exact ⟨before, messages, after, old, reached, found, emitted, processed, by simpa using changed⟩

end Examples

end TelegramBotApi.Messages
