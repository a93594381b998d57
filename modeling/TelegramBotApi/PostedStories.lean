import TelegramBotApi.Client
import TelegramBotApi.Lib.Tables

set_option autoImplicit false

-- The stories that TDLib is posting, and the requests that wait for them.
namespace TelegramBotApi.PostedStories

open Checked Tables
open Client (Query ClosingError)

-- The chat of the poster and the number of the story in it.
abbrev StoryFullId := Int × Int

structure Error where
  code : Int
  message : String
deriving DecidableEq

inductive Answer where
  | story (fullId : StoryFullId)  -- JsonStory
  | error (error : Error)
deriving DecidableEq

structure State where
  closing : Bool := false
  loggingOut : Bool := false
  yetUnsentStories : Table StoryFullId Query := ∅
  handlers : Table Nat Query := ∅  -- TdOnPostStoryCallback
  answers : List (Query × Answer) := []
  requested : List Query := []  -- history: the postStory requests

inductive Check where
  | handlerFound         -- on_result
  | storyEmplaced        -- on_sent_story
  | yetUnsentStoryFound  -- on_story_send_succeeded, on_story_send_failed
deriving DecidableEq

def State.answer (query : Query) (answer : Answer) (state : State) : State :=
  { state with answers := state.answers ++ [(query, answer)] }

-- The end of process_post_story_query. send_request answers at once while the client is closing.
def sendPostStory (query : Query) (handlerId : Nat) (error : ClosingError) (state : State) : State :=
  if state.closing || state.loggingOut then state.answer query (.error ⟨error.code, error.message⟩)
  else { state with handlers := state.handlers.insert handlerId query }

def onSentStory (fullId : StoryFullId) (query : Query) (state : State) : Except Check State := do
  require .storyEmplaced (state.yetUnsentStories.lookup fullId = none)
  return { state with yetUnsentStories := state.yetUnsentStories.insert fullId query }

def onResult (handlerId : Nat) (result : Except Error StoryFullId) (state : State) : Except Check State :=
  match state.handlers.lookup handlerId with
  | none => .error .handlerFound
  | some query =>
      let taken := { state with handlers := state.handlers.erase handlerId }
      match result with
      | .error error => .ok (taken.answer query (.error error))
      | .ok fullId => onSentStory fullId query taken

def takeStory (fullId : StoryFullId) (answer : Answer) (state : State) : Except Check State :=
  match state.yetUnsentStories.lookup fullId with
  | none => .error .yetUnsentStoryFound
  | some query =>
      .ok (State.answer query answer { state with yetUnsentStories := state.yetUnsentStories.erase fullId })

def onStorySendSucceeded (chatId storyId oldStoryId : Int) (state : State) : Except Check State :=
  takeStory (chatId, oldStoryId) (.story (chatId, storyId)) state

def onStorySendFailed (chatId storyId : Int) (error : Error) (state : State) : Except Check State :=
  takeStory (chatId, storyId) (.error error) state

inductive Event where
  | post (query : Query) (handlerId : Nat)
  | result (handlerId : Nat) (result : Except Error StoryFullId)
  | sendSucceeded (chatId storyId oldStoryId : Int)
  | sendFailed (chatId storyId : Int) (error : Error)

def step (state : State) (error : ClosingError) : Event → Except Check State
  | .post query handlerId =>
      .ok (sendPostStory query handlerId error { state with requested := state.requested ++ [query] })
  | .result handlerId result => onResult handlerId result state
  | .sendSucceeded chatId storyId oldStoryId => onStorySendSucceeded chatId storyId oldStoryId state
  | .sendFailed chatId storyId failure => onStorySendFailed chatId storyId failure state

def enabled (state : State) : Event → Prop
  | .post query handlerId => (∀ other ∈ state.requested, other.id ≠ query.id) ∧ handlerId ∉ state.handlers
  | _ => True

structure Accounted (state : State) : Prop where
  account : (state.answers.map Prod.fst : Multiset Query) + values state.handlers + values state.yetUnsentStories =
    state.requested
  distinct : (state.requested.map Query.id).Nodup

theorem answered_query (query : Query) (answer : Answer) (state : State) :
    ((state.answer query answer).answers.map Prod.fst : Multiset Query) = query ::ₘ state.answers.map Prod.fst := by
  rw [State.answer, List.map_append, List.map_singleton, Multiset.cons_coe, Multiset.coe_eq_coe]
  exact List.perm_append_singleton query _

theorem result_accounted (handlerId : Nat) (result : Except Error StoryFullId) (state : State)
    (accounted : Accounted state) : Meets (fun _ => True) Accounted (onResult handlerId result state) := by
  unfold onResult
  cases known : state.handlers.lookup handlerId with
  | none => trivial
  | some query =>
      have account := accounted.account
      rw [← values_erase state.handlers handlerId query known, Multiset.add_cons, Multiset.cons_add] at account
      cases result with
      | error failure =>
          refine ⟨?_, accounted.distinct⟩
          rw [answered_query, Multiset.cons_add, Multiset.cons_add]
          exact account
      | ok fullId =>
          apply meets_require _ _ _ _ _ (fun _ => trivial)
          intro new
          refine ⟨?_, accounted.distinct⟩
          rw [values_insert_new _ _ _ new, Multiset.add_cons]
          exact account

theorem take_story_accounted (fullId : StoryFullId) (answer : Answer) (state : State) (accounted : Accounted state) :
    Meets (fun _ => True) Accounted (takeStory fullId answer state) := by
  unfold takeStory
  cases waiting : state.yetUnsentStories.lookup fullId with
  | none => trivial
  | some query =>
      have account := accounted.account
      rw [← values_erase state.yetUnsentStories fullId query waiting, Multiset.add_cons] at account
      refine ⟨?_, accounted.distinct⟩
      rw [answered_query, Multiset.cons_add, Multiset.cons_add]
      exact account

theorem post_accounted (query : Query) (handlerId : Nat) (error : ClosingError) (state : State)
    (accounted : Accounted state) (fresh : ∀ other ∈ state.requested, other.id ≠ query.id)
    (unused : handlerId ∉ state.handlers) :
    Accounted (sendPostStory query handlerId error { state with requested := state.requested ++ [query] }) := by
  have distinct := query.ids_distinct state.requested fresh accounted.distinct
  have requested : ((state.requested ++ [query] : List Query) : Multiset Query) = query ::ₘ state.requested := by
    rw [Multiset.cons_coe, Multiset.coe_eq_coe]
    exact List.perm_append_singleton query _
  unfold sendPostStory
  split
  · refine ⟨?_, distinct⟩
    rw [answered_query, Multiset.cons_add, Multiset.cons_add]
    exact (congrArg (query ::ₘ ·) accounted.account).trans requested.symm
  · refine ⟨?_, distinct⟩
    rw [values_insert_new _ _ _ (AList.lookup_eq_none.2 unused), Multiset.add_cons, Multiset.cons_add]
    exact (congrArg (query ::ₘ ·) accounted.account).trans requested.symm

theorem step_accounted (state : State) (error : ClosingError) (event : Event) (offered : enabled state event)
    (accounted : Accounted state) : Meets (fun _ => True) Accounted (step state error event) := by
  cases event with
  | post query handlerId => exact post_accounted query handlerId error state accounted offered.1 offered.2
  | result handlerId result => exact result_accounted handlerId result state accounted
  | sendSucceeded chatId storyId oldStoryId => exact take_story_accounted _ _ state accounted
  | sendFailed chatId storyId failure => exact take_story_accounted _ _ state accounted

end TelegramBotApi.PostedStories
