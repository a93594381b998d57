import TelegramBotApi.FileDownloads

set_option autoImplicit false

namespace TelegramBotApi.FileDownloads

open Tables
open Client (Query ClosingError)

def waitingIn (table : Table FileId (List Query)) : Multiset Query :=
  ((values table).map Multiset.ofList).sum

def listenersOf (table : Table FileId (List Query)) (fileId : FileId) : List Query := (table.lookup fileId).getD []

theorem waiting_split (table : Table FileId (List Query)) (fileId : FileId) :
    waitingIn table = (listenersOf table fileId : Multiset Query) + waitingIn (table.erase fileId) := by
  cases found : table.lookup fileId with
  | none =>
      rw [listenersOf, found, Option.getD_none, Multiset.coe_nil, zero_add, waitingIn, waitingIn, values, values,
        entries_erase_new table fileId found]
  | some queries =>
      rw [listenersOf, found, Option.getD_some, waitingIn, ← values_erase table fileId queries found, Multiset.map_cons,
        Multiset.sum_cons, waitingIn]

theorem waiting_insert (table : Table FileId (List Query)) (fileId : FileId) (queries : List Query) :
    waitingIn (table.insert fileId queries) = (queries : Multiset Query) + waitingIn (table.erase fileId) := by
  rw [waitingIn, values_insert, Multiset.map_cons, Multiset.sum_cons, waitingIn]

theorem sum_of_lists (lists : List (List Query)) :
    ((lists : Multiset (List Query)).map Multiset.ofList).sum = (lists.flatten : Multiset Query) := by
  induction lists with
  | nil => rfl
  | cons first rest ih =>
      rw [← Multiset.cons_coe, Multiset.map_cons, Multiset.sum_cons, ih, List.flatten_cons, ← Multiset.coe_add]

theorem waiting_entries (table : Table FileId (List Query)) :
    waitingIn table = (table.entries.flatMap Sigma.snd : Multiset Query) := by
  rw [waitingIn, values, sum_of_lists, List.flatMap_def]

theorem mem_waiting (table : Table FileId (List Query)) (fileId : FileId) (queries : List Query) (query : Query)
    (found : table.lookup fileId = some queries) (member : query ∈ queries) : query ∈ waitingIn table := by
  rw [waiting_split table fileId, Multiset.mem_add, listenersOf, found]
  exact .inl member

def State.listeners (fileId : FileId) (state : State) : List Query := listenersOf state.fileDownloadListeners fileId

def State.waiting (state : State) : Multiset Query := waitingIn state.fileDownloadListeners

def Returned (fileId : FileId) (state : State) : Prop := ∃ query ∈ state.listeners fileId, query ∈ state.returned

structure Accounted (state : State) : Prop where
  account : (state.answers.map Prod.fst : Multiset Query) + state.waiting = state.requested
  distinct : (state.requested.map Query.id).Nodup
  started : ∀ fileId ∈ state.downloadStartedFileIds, (state.fileDownloadListeners.lookup fileId).isSome = true
  nonempty : ∀ fileId queries, state.fileDownloadListeners.lookup fileId = some queries → queries ≠ []
  callbacks : ∀ handlerId callback, state.handlers.lookup handlerId = some callback →
    callback.query ∈ state.requested ∧
    ∀ fileId, callback.query ∈ state.listeners fileId → fileId = callback.fileId
  returned : ∀ query ∈ state.returned, query ∈ state.requested
  marked : ∀ fileId, Returned fileId state → fileId ∈ state.downloadStartedFileIds

-- A mark stands for a result that one of the listeners has.
def Marked (state : State) : Prop := ∀ fileId ∈ state.downloadStartedFileIds, Returned fileId state

theorem listeners_of_lookup (state : State) (fileId : FileId) (queries : List Query)
    (found : state.fileDownloadListeners.lookup fileId = some queries) : state.listeners fileId = queries := by
  rw [State.listeners, listenersOf, found, Option.getD_some]

theorem listeners_of_missing (state : State) (fileId : FileId)
    (missing : state.fileDownloadListeners.lookup fileId = none) : state.listeners fileId = [] := by
  rw [State.listeners, listenersOf, missing, Option.getD_none]

theorem lookup_of_listener (state : State) (fileId : FileId) (query : Query) (member : query ∈ state.listeners fileId) :
    ∃ queries, state.fileDownloadListeners.lookup fileId = some queries ∧ query ∈ queries := by
  cases found : state.fileDownloadListeners.lookup fileId with
  | none =>
      rw [listeners_of_missing state fileId found] at member
      cases member
  | some queries =>
      rw [listeners_of_lookup state fileId queries found] at member
      exact ⟨queries, rfl, member⟩

theorem listener_requested (state : State) (fileId : FileId) (query : Query) (accounted : Accounted state)
    (member : query ∈ state.listeners fileId) : query ∈ state.requested := by
  obtain ⟨queries, found, listed⟩ := lookup_of_listener state fileId query member
  have waits := mem_waiting state.fileDownloadListeners fileId queries query found listed
  rw [← Multiset.mem_coe, ← accounted.account]
  exact Multiset.mem_add.2 (.inr waits)

theorem listeners_erase (table : Table FileId (List Query)) (fileId other : FileId) :
    listenersOf (table.erase fileId) other = if other = fileId then [] else listenersOf table other := by
  rw [listenersOf, lookup_erase]
  split <;> rfl

theorem listeners_insert (table : Table FileId (List Query)) (fileId other : FileId) (queries : List Query) :
    listenersOf (table.insert fileId queries) other = if other = fileId then queries else listenersOf table other := by
  rw [listenersOf, lookup_insert]
  split <;> rfl

section Steps

variable (localMode : Bool)

def Resolved (fileId : FileId) (answer : Answer) (before after : State) : Prop :=
  after.answers = before.answers ++ (before.listeners fileId).map (fun query => (query, answer)) ∧
  after.fileDownloadListeners = before.fileDownloadListeners.erase fileId

def Unaffected (before after : State) : Prop :=
  after.answers = before.answers ∧ after.fileDownloadListeners = before.fileDownloadListeners

theorem erase_missing (table : Table FileId (List Query)) (fileId : FileId) (missing : table.lookup fileId = none) :
    table.erase fileId = table := AList.ext (entries_erase_new table fileId missing)

theorem on_file_download_resolved (fileId : FileId) (result : Except Error File) (state : State) :
    Resolved fileId (answerOf result) state (onFileDownload fileId result state) := by
  unfold onFileDownload
  split
  · rename_i missing
    rw [Resolved, listeners_of_missing state fileId missing, List.map_nil, List.append_nil, erase_missing _ _ missing]
    exact ⟨rfl, rfl⟩
  · rename_i queries found
    rw [Resolved, listeners_of_lookup state fileId queries found]
    exact ⟨rfl, rfl⟩

theorem on_file_download_accounted (fileId : FileId) (result : Except Error File) (state : State)
    (accounted : Accounted state) : Accounted (onFileDownload fileId result state) := by
  unfold onFileDownload
  split
  · exact accounted
  · rename_i queries found
    have fewer (other : FileId) (query : Query)
        (member : query ∈ listenersOf (state.fileDownloadListeners.erase fileId) other) :
        other ≠ fileId ∧ query ∈ state.listeners other := by
      rw [listeners_erase] at member
      split at member
      · cases member
      · rename_i different
        exact ⟨different, member⟩
    refine ⟨?_, accounted.distinct, ?_, ?_, ?_, accounted.returned, ?_⟩
    · have account := accounted.account
      rw [State.waiting, waiting_split _ fileId, listenersOf, found] at account
      rw [← account]
      simp only [State.waiting, List.map_append, List.map_map, Function.comp_def, List.map_id', Option.getD_some,
        ← Multiset.coe_add, add_assoc]
    · intro other member
      obtain ⟨different, old⟩ := Finset.mem_erase.1 member
      rw [lookup_erase, if_neg different]
      exact accounted.started other old
    · intro other listed present
      rw [lookup_erase] at present
      split at present
      · cases present
      · exact accounted.nonempty other listed present
    · intro handlerId callback known
      obtain ⟨asked, own⟩ := accounted.callbacks handlerId callback known
      exact ⟨asked, fun other member => own other (fewer other _ member).2⟩
    · rintro other ⟨query, member, returned⟩
      obtain ⟨different, old⟩ := fewer other query member
      exact Finset.mem_erase.2 ⟨different, accounted.marked other ⟨query, old, returned⟩⟩

def joined (fileId : FileId) (query : Query) (state : State) : State :=
  { state with
    requested := state.requested ++ [query]
    fileDownloadListeners := state.fileDownloadListeners.insert fileId (state.listeners fileId ++ [query]) }

def Fresh (query : Query) (state : State) : Prop := ∀ other ∈ state.requested, other.id ≠ query.id

theorem not_requested (query : Query) (state : State) (fresh : Fresh query state) : query ∉ state.requested :=
  fun member => fresh query member rfl

theorem joined_listeners (fileId other : FileId) (query : Query) (state : State) :
    (joined fileId query state).listeners other =
      if other = fileId then state.listeners fileId ++ [query] else state.listeners other :=
  listeners_insert _ _ _ _

theorem joined_listener (fileId other : FileId) (query listener : Query) (state : State)
    (member : listener ∈ (joined fileId query state).listeners other) :
    listener ∈ state.listeners other ∨ listener = query ∧ other = fileId := by
  rw [joined_listeners] at member
  split at member
  · rename_i same
    rcases List.mem_append.1 member with old | added
    · exact .inl (same ▸ old)
    · exact .inr ⟨List.mem_singleton.1 added, same⟩
  · exact .inl member

theorem joined_accounted (fileId : FileId) (query : Query) (state : State) (accounted : Accounted state)
    (fresh : Fresh query state) : Accounted (joined fileId query state) := by
  refine ⟨?_, query.ids_distinct state.requested fresh accounted.distinct, ?_, ?_, ?_, ?_, ?_⟩
  · have account := accounted.account
    rw [State.waiting, waiting_split _ fileId] at account
    simp only [joined, State.waiting, waiting_insert, ← Multiset.coe_add, ← account, State.listeners]
    abel
  · intro other member
    simp only [joined, lookup_insert]
    split
    · rfl
    · exact accounted.started other member
  · intro other queries found
    simp only [joined, lookup_insert] at found
    split at found
    · cases found
      exact List.append_ne_nil_of_right_ne_nil _ (List.cons_ne_nil _ _)
    · exact accounted.nonempty other queries found
  · intro handlerId callback known
    obtain ⟨asked, own⟩ := accounted.callbacks handlerId callback known
    refine ⟨List.mem_append_left _ asked, fun other member => ?_⟩
    rcases joined_listener fileId other query _ state member with old | ⟨same, _⟩
    · exact own other old
    · rw [same] at asked
      exact absurd asked (not_requested query state fresh)
  · exact fun other member => List.mem_append_left _ (accounted.returned other member)
  · rintro other ⟨listener, member, returned⟩
    rcases joined_listener fileId other query listener state member with old | ⟨same, _⟩
    · exact accounted.marked other ⟨listener, old, returned⟩
    · rw [same] at returned
      exact absurd (accounted.returned query returned) (not_requested query state fresh)

theorem callback_added_accounted (fileId : FileId) (query : Query) (state : State) (accounted : Accounted state)
    (fresh : Fresh query state) (handlerId nextHandlerId : Nat) :
    Accounted { joined fileId query state with
      handlers := state.handlers.insert handlerId ⟨fileId, query⟩, nextHandlerId := nextHandlerId } := by
  have kept := joined_accounted fileId query state accounted fresh
  refine ⟨kept.account, kept.distinct, kept.started, kept.nonempty, ?_, kept.returned, kept.marked⟩
  intro other callback known
  simp only [lookup_insert] at known
  split at known
  · cases known
    refine ⟨List.mem_append_right _ (List.mem_singleton_self query), fun otherFile member => ?_⟩
    rcases joined_listener fileId otherFile query query state member with old | ⟨_, same⟩
    · exact absurd (listener_requested state otherFile query accounted old) (not_requested query state fresh)
    · exact same
  · exact kept.callbacks other callback known

theorem refused_accounted (query : Query) (error : Error) (state : State) (accounted : Accounted state)
    (fresh : Fresh query state) :
    Accounted { state with
      requested := state.requested ++ [query], answers := state.answers ++ [(query, .error error)] } := by
  refine ⟨?_, query.ids_distinct state.requested fresh accounted.distinct, accounted.started, accounted.nonempty, ?_, ?_,
    accounted.marked⟩
  · simp only [List.map_append, List.map_singleton, ← Multiset.coe_add, ← accounted.account, State.waiting]
    abel
  · intro handlerId callback known
    obtain ⟨asked, own⟩ := accounted.callbacks handlerId callback known
    exact ⟨List.mem_append_left _ asked, own⟩
  · exact fun other member => List.mem_append_left _ (accounted.returned other member)

-- The result of the callback is noted before the mark is set.
def returning (callback : DownloadFileCallback) (state : State) : State :=
  { state with returned := state.returned ++ [callback.query] }

theorem mark_started_accounted (handlerId : Nat) (callback : DownloadFileCallback) (state : State)
    (accounted : Accounted state) (known : state.handlers.lookup handlerId = some callback) :
    Accounted (markStarted callback.fileId
      (returning callback { state with handlers := state.handlers.erase handlerId })) := by
  obtain ⟨asked, own⟩ := accounted.callbacks handlerId callback known
  have fewer : ∀ other later, (state.handlers.erase handlerId).lookup other = some later →
      later.query ∈ state.requested ∧ ∀ fileId, later.query ∈ state.listeners fileId → fileId = later.fileId := by
    intro other later present
    rw [lookup_erase] at present
    split at present
    · cases present
    · exact accounted.callbacks other later present
  have answered : ∀ query ∈ state.returned ++ [callback.query], query ∈ state.requested := by
    intro query member
    rcases List.mem_append.1 member with old | added
    · exact accounted.returned query old
    · rw [List.mem_singleton.1 added]
      exact asked
  have listed (fileId : FileId) (returned : Returned fileId (returning callback state)) :
      fileId ∈ state.downloadStartedFileIds ∨ fileId = callback.fileId ∧ isFileBeingDownloaded fileId state = true := by
    obtain ⟨query, member, result⟩ := returned
    rcases List.mem_append.1 result with old | added
    · exact .inl (accounted.marked fileId ⟨query, member, old⟩)
    · have mine : query = callback.query := List.mem_singleton.1 added
      obtain ⟨queries, found, _⟩ := lookup_of_listener state fileId query member
      exact .inr ⟨own fileId (mine ▸ member), by rw [isFileBeingDownloaded, found, Option.isSome_some]⟩
  unfold markStarted
  split
  · rename_i awaited
    refine ⟨accounted.account, accounted.distinct, ?_, accounted.nonempty, fewer, answered, ?_⟩
    · intro fileId member
      rcases Finset.mem_insert.1 member with rfl | old
      · exact awaited
      · exact accounted.started fileId old
    · intro fileId returned
      rcases listed fileId returned with old | ⟨same, _⟩
      · exact Finset.mem_insert_of_mem old
      · rw [same]
        exact Finset.mem_insert_self _ _
  · rename_i unawaited
    refine ⟨accounted.account, accounted.distinct, accounted.started, accounted.nonempty, fewer, answered, ?_⟩
    intro fileId returned
    rcases listed fileId returned with old | ⟨same, awaited⟩
    · exact old
    · exact absurd (same ▸ awaited) unawaited

def TooBig (file : File) : Prop := localMode = false ∧ maxDownloadFileSize < file.downloadedSize

instance (file : File) : Decidable (TooBig localMode file) := inferInstanceAs (Decidable (_ ∧ _))

def Final (file : File) : Prop := TooBig localMode file ∨ file.isDownloadingCompleted = true

instance (file : File) : Decidable (Final localMode file) := inferInstanceAs (Decidable (_ ∨ _))

def stoppedError (error : ClosingError) (state : State) : Error :=
  if state.isClosing then closingStatus error else wrongFileId

-- What the news about a file mean for those who wait for it. An inactive download
-- is a failure only once one of them has the result of its downloadFile.
structure Notified (file : File) (error : ClosingError) (before after : State) : Prop where
  tooBig : TooBig localMode file → Resolved file.id (.error fileIsTooBig) before after
  completed : ¬ TooBig localMode file → file.isDownloadingCompleted = true → Resolved file.id (.file file) before after
  stopped : ¬ Final localMode file → file.isDownloadingActive = false → Returned file.id before →
    Resolved file.id (.error (stoppedError error before)) before after
  waits : ¬ Final localMode file → file.isDownloadingActive = true ∨ ¬ Returned file.id before → Unaffected before after

theorem resolved_missing (fileId : FileId) (answer : Answer) (state : State)
    (missing : state.fileDownloadListeners.lookup fileId = none) : Resolved fileId answer state state := by
  rw [Resolved, listeners_of_missing state fileId missing, erase_missing _ _ missing]
  exact ⟨(List.append_nil _).symm, rfl⟩

inductive Updates (file : File) (error : ClosingError) (state : State) : State → Prop where
  | unawaited (missing : state.fileDownloadListeners.lookup file.id = none) : Updates file error state state
  | tooBig (cancelledFileIds : List FileId) (big : TooBig localMode file) : Updates file error state
      (onFileDownload file.id (.error fileIsTooBig) { state with cancelledFileIds := cancelledFileIds })
  | completed (small : ¬ TooBig localMode file) (done : file.isDownloadingCompleted = true) :
      Updates file error state (onFileDownload file.id (.ok file) state)
  | stopped (running : ¬ Final localMode file) (inactive : file.isDownloadingActive = false)
      (started : file.id ∈ state.downloadStartedFileIds) :
      Updates file error state (onFileDownload file.id (.error (stoppedError error state)) state)
  | waits (running : ¬ Final localMode file)
      (benign : file.isDownloadingActive = true ∨ file.id ∉ state.downloadStartedFileIds) : Updates file error state state

theorem on_update_file_updates (file : File) (error : ClosingError) (state : State) :
    Updates localMode file error state (onUpdateFile localMode file error state) := by
  unfold onUpdateFile
  split
  · rename_i unawaited
    exact .unawaited (by simpa [isFileBeingDownloaded] using unawaited)
  · split
    · rename_i big
      have tooBig : TooBig localMode file := by simpa [TooBig] using big
      unfold cancelDownloadFile
      split
      · exact .tooBig _ tooBig
      · exact .tooBig state.cancelledFileIds tooBig
    · rename_i small
      have notBig : ¬ TooBig localMode file := fun big => small (by simpa [TooBig] using big)
      split
      · rename_i done
        exact .completed notBig done
      · rename_i incomplete
        have running : ¬ Final localMode file := fun final => final.elim notBig incomplete
        split
        · rename_i stopped
          simp only [Bool.and_eq_true, Bool.not_eq_true', decide_eq_true_eq] at stopped
          have failed : Updates localMode file error state _ := .stopped running stopped.1 stopped.2
          unfold stoppedError at failed
          split
          · rename_i closing
            rwa [if_pos closing] at failed
          · rename_i online
            rwa [if_neg online] at failed
        · rename_i benign
          simp only [Bool.and_eq_true, Bool.not_eq_true', decide_eq_true_eq, not_and] at benign
          apply Updates.waits running
          cases active : file.isDownloadingActive with
          | true => exact .inl rfl
          | false => exact .inr (benign active)

theorem updates_accounted (file : File) (error : ClosingError) (before after : State)
    (updates : Updates localMode file error before after) (accounted : Accounted before) : Accounted after := by
  cases updates with
  | unawaited | waits => exact accounted
  | tooBig cancelledFileIds big =>
      apply on_file_download_accounted
      exact ⟨accounted.account, accounted.distinct, accounted.started, accounted.nonempty, accounted.callbacks,
        accounted.returned, accounted.marked⟩
  | completed small done => exact on_file_download_accounted _ _ before accounted
  | stopped running inactive started => exact on_file_download_accounted _ _ before accounted

theorem updates_notified (file : File) (error : ClosingError) (before after : State)
    (updates : Updates localMode file error before after) (accounted : Accounted before)
    (marked : ¬ Final localMode file → file.id ∈ before.downloadStartedFileIds → Returned file.id before) :
    Notified localMode file error before after := by
  cases updates with
  | unawaited missing =>
      have nobody (answer : Answer) := resolved_missing file.id answer before missing
      exact ⟨fun _ => nobody _, fun _ _ => nobody _, fun _ _ _ => nobody _, fun _ _ => ⟨rfl, rfl⟩⟩
  | tooBig cancelledFileIds big =>
      refine ⟨fun _ => ?_, fun small => absurd big small, fun running => absurd (.inl big) running,
        fun running => absurd (.inl big) running⟩
      exact on_file_download_resolved file.id (.error fileIsTooBig) { before with cancelledFileIds := cancelledFileIds }
  | completed small done =>
      exact ⟨fun big => absurd big small, fun _ _ => on_file_download_resolved file.id (.ok file) before,
        fun running => absurd (.inr done) running, fun running => absurd (.inr done) running⟩
  | stopped running inactive started =>
      refine ⟨fun big => absurd (.inl big) running, fun _ done => absurd (.inr done) running,
        fun _ _ _ => on_file_download_resolved _ _ before, fun _ benign => ?_⟩
      rcases benign with active | early
      · rw [inactive] at active
        cases active
      · exact absurd (marked running started) early
  | waits running benign =>
      refine ⟨fun big => absurd (.inl big) running, fun _ done => absurd (.inr done) running,
        fun _ inactive returned => ?_, fun _ _ => ⟨rfl, rfl⟩⟩
      rcases benign with active | unmarked
      · rw [inactive] at active
        cases active
      · exact absurd (accounted.marked file.id returned) unmarked

theorem on_file_download_marked (fileId : FileId) (result : Except Error File) (state : State)
    (marked : ∀ other ∈ state.downloadStartedFileIds, other ≠ fileId → Returned other state)
    (listed : fileId ∈ state.downloadStartedFileIds → (state.fileDownloadListeners.lookup fileId).isSome = true) :
    Marked (onFileDownload fileId result state) := by
  unfold onFileDownload
  split
  · rename_i missing
    intro other member
    apply marked other member
    rintro rfl
    rw [missing] at listed
    exact absurd (listed member) Bool.false_ne_true
  · intro other member
    obtain ⟨different, old⟩ := Finset.mem_erase.1 member
    obtain ⟨query, waits, returned⟩ := marked other old different
    refine ⟨query, ?_, returned⟩
    change query ∈ listenersOf (state.fileDownloadListeners.erase fileId) other
    rw [listeners_erase, if_neg different]
    exact waits

theorem updates_marked (file : File) (error : ClosingError) (before after : State)
    (updates : Updates localMode file error before after) (accounted : Accounted before)
    (marked : ∀ other ∈ before.downloadStartedFileIds, other ≠ file.id ∨ ¬ Final localMode file → Returned other before) :
    Marked after := by
  have others (other : FileId) (member : other ∈ before.downloadStartedFileIds) (different : other ≠ file.id) :
      Returned other before := marked other member (.inl different)
  cases updates with
  | unawaited missing =>
      intro other member
      by_cases same : other = file.id
      · have listed := accounted.started other member
        rw [same, missing] at listed
        cases listed
      · exact others other member same
  | tooBig cancelledFileIds big => exact on_file_download_marked file.id _ _ others (accounted.started file.id)
  | completed small done => exact on_file_download_marked file.id _ _ others (accounted.started file.id)
  | stopped running inactive started => exact on_file_download_marked file.id _ _ others (accounted.started file.id)
  | waits running benign => exact fun other member => marked other member (.inr running)

-- A downloadFile result about a file that others wait for is of their own request,
-- unless it ends the wait or one of them had a result before.
def OwnResults : Transition.Condition State (Event × ClosingError) := fun state event =>
  match event.1 with
  | .downloadFileResult handlerId (.ok file) => ∀ callback, state.handlers.lookup handlerId = some callback →
      Final localMode file ∨ state.listeners callback.fileId = [] ∨ callback.query ∈ state.listeners callback.fileId ∨
        Returned callback.fileId state
  | _ => True

def Follows (before : State) (error : ClosingError) (after : State) : Event → Prop
  | .getFile file query =>
      if !localMode && maxDownloadFileSize < max file.expectedSize file.downloadedSize then
        after.answers = before.answers ++ [(query, .error fileIsTooBig)] ∧
          after.fileDownloadListeners = before.fileDownloadListeners
      else if before.isClosing then Resolved file.id (.error (closingStatus error)) (joined file.id query before) after
      else Unaffected (joined file.id query before) after
  | .downloadFileResult handlerId (.error failure) => ∀ callback, before.handlers.lookup handlerId = some callback →
      Resolved callback.fileId (.error failure) before after
  | .downloadFileResult handlerId (.ok file) => ∀ callback, before.handlers.lookup handlerId = some callback →
      Notified localMode file error (returning callback before) after
  | .updateFile file => Notified localMode file error before after
  | .authorizationClosing | .authorizationLoggingOut => Unaffected before after
  | .authorizationClosed => after.fileDownloadListeners = ∅ ∧
      (after.answers : Multiset (Query × Answer)) =
        before.answers + before.waiting.map (fun query => (query, closingAnswer error))

theorem do_get_file_steps (file : File) (query : Query) (error : ClosingError) (state : State)
    (accounted : Accounted state) (fresh : Fresh query state) :
    Accounted (step localMode state error (.getFile file query)) ∧
      Follows localMode state error (step localMode state error (.getFile file query)) (.getFile file query) := by
  have kept := joined_accounted file.id query state accounted fresh
  simp only [step, doGetFile, Follows]
  split
  · exact ⟨refused_accounted query fileIsTooBig state accounted fresh, rfl, rfl⟩
  · unfold sendDownloadFile
    by_cases closing : state.isClosing = true
    · rw [if_pos closing]
      change Accounted (if state.isClosing = true then onFileDownload file.id _ (joined file.id query state) else _) ∧
        Resolved file.id _ (joined file.id query state)
          (if state.isClosing = true then onFileDownload file.id _ (joined file.id query state) else _)
      rw [if_pos closing]
      exact ⟨on_file_download_accounted _ _ _ kept, on_file_download_resolved _ _ _⟩
    · rw [if_neg closing]
      change Accounted (if state.isClosing = true then _ else _) ∧ Unaffected _ (if state.isClosing = true then _ else _)
      rw [if_neg closing]
      exact ⟨callback_added_accounted file.id query state accounted fresh _ _, rfl, rfl⟩

def returnedTo (handlerId : Nat) (callback : DownloadFileCallback) (state : State) : State :=
  markStarted callback.fileId (returning callback { state with handlers := state.handlers.erase handlerId })

theorem returned_to_started (handlerId : Nat) (callback : DownloadFileCallback) (state : State) (fileId : FileId)
    (member : fileId ∈ (returnedTo handlerId callback state).downloadStartedFileIds) :
    fileId ∈ state.downloadStartedFileIds ∨
      fileId = callback.fileId ∧ (state.fileDownloadListeners.lookup callback.fileId).isSome = true := by
  unfold returnedTo markStarted at member
  split at member
  · rename_i awaited
    rcases Finset.mem_insert.1 member with same | old
    · exact .inr ⟨same, awaited⟩
    · exact .inl old
  · exact .inl member

theorem returned_to_returned (handlerId : Nat) (callback : DownloadFileCallback) (state : State) (fileId : FileId) :
    Returned fileId (returnedTo handlerId callback state) ↔ Returned fileId (returning callback state) := by
  unfold returnedTo markStarted
  split <;> rfl

theorem returned_later (callback : DownloadFileCallback) (state : State) (fileId : FileId)
    (returned : Returned fileId state) : Returned fileId (returning callback state) := by
  obtain ⟨query, member, result⟩ := returned
  exact ⟨query, member, List.mem_append_left _ result⟩

theorem own_result_marked (handlerId : Nat) (callback : DownloadFileCallback) (file : File) (error : ClosingError)
    (state : State) (accounted : Accounted state) (marked : Marked state)
    (known : state.handlers.lookup handlerId = some callback)
    (own : OwnResults localMode state (.downloadFileResult handlerId (.ok file), error)) (fileId : FileId)
    (member : fileId ∈ (returnedTo handlerId callback state).downloadStartedFileIds)
    (running : fileId ≠ callback.fileId ∨ ¬ Final localMode file) :
    Returned fileId (returnedTo handlerId callback state) := by
  rw [returned_to_returned]
  rcases returned_to_started handlerId callback state fileId member with old | ⟨rfl, awaited⟩
  · exact returned_later callback state fileId (marked fileId old)
  · rcases own callback known with final | nobody | mine | before
    · exact absurd final (running.resolve_left fun different => different rfl)
    · obtain ⟨queries, found⟩ := Option.isSome_iff_exists.1 awaited
      rw [listeners_of_lookup state _ queries found] at nobody
      exact absurd nobody (accounted.nonempty _ queries found)
    · exact ⟨callback.query, mine, List.mem_append_right _ (List.mem_singleton_self _)⟩
    · exact returned_later callback state _ before

theorem notified_returning (handlerId : Nat) (callback : DownloadFileCallback) (file : File) (error : ClosingError)
    (before after : State) (notified : Notified localMode file error (returnedTo handlerId callback before) after) :
    Notified localMode file error (returning callback before) after := by
  unfold returnedTo markStarted at notified
  split at notified
  · exact ⟨notified.tooBig, notified.completed, notified.stopped, notified.waits⟩
  · exact ⟨notified.tooBig, notified.completed, notified.stopped, notified.waits⟩

theorem callback_taken_accounted (handlerId : Nat) (state : State) (accounted : Accounted state) :
    Accounted { state with handlers := state.handlers.erase handlerId } := by
  refine ⟨accounted.account, accounted.distinct, accounted.started, accounted.nonempty, ?_, accounted.returned,
    accounted.marked⟩
  intro other callback known
  dsimp only at known
  rw [lookup_erase] at known
  split at known
  · cases known
  · exact accounted.callbacks other callback known

theorem on_closed_answers (error : ClosingError) (state : State) :
    ((onClosed error state).answers : Multiset (Query × Answer)) =
      state.answers + state.waiting.map (fun query => (query, closingAnswer error)) := by
  rw [State.waiting, waiting_entries, Multiset.map_coe, Multiset.coe_add]
  rfl

theorem on_closed_accounted (error : ClosingError) (state : State) (accounted : Accounted state) :
    Accounted (onClosed error state) := by
  refine ⟨?_, accounted.distinct, ?_, ?_, ?_, accounted.returned, ?_⟩
  · have answered := congrArg (Multiset.map Prod.fst) (on_closed_answers error state)
    rw [Multiset.map_add, Multiset.map_map, Multiset.map_coe, Multiset.map_coe] at answered
    have nobody : (onClosed error state).waiting = 0 := rfl
    rw [nobody, add_zero, answered, Function.comp_def, Multiset.map_id']
    exact accounted.account
  · intro fileId member
    cases member
  · intro fileId queries found
    cases found
  · intro handlerId callback known
    cases known
  · rintro fileId ⟨query, member, _⟩
    cases member

theorem step_accounted (state : State) (error : ClosingError) (event : Event) (allowed : enabled state event)
    (accounted : Accounted state) : Accounted (step localMode state error event) := by
  cases event with
  | getFile file query => exact (do_get_file_steps localMode file query error state accounted allowed.2).1
  | downloadFileResult handlerId result =>
      obtain ⟨_, callback, known, _⟩ := allowed
      have taken := callback_taken_accounted handlerId state accounted
      simp only [step, onResult, known]
      cases result with
      | error failure => exact on_file_download_accounted _ _ _ taken
      | ok file =>
          have started := mark_started_accounted handlerId callback state accounted known
          exact updates_accounted localMode file error _ _ (on_update_file_updates localMode file error _) started
  | updateFile file =>
      exact updates_accounted localMode file error _ _ (on_update_file_updates localMode file error state) accounted
  | authorizationClosing | authorizationLoggingOut =>
      exact ⟨accounted.account, accounted.distinct, accounted.started, accounted.nonempty, accounted.callbacks,
        accounted.returned, accounted.marked⟩
  | authorizationClosed => exact on_closed_accounted error state accounted

theorem step_follows (state : State) (error : ClosingError) (event : Event) (allowed : enabled state event)
    (own : OwnResults localMode state (event, error)) (accounted : Accounted state) (marked : Marked state) :
    Follows localMode state error (step localMode state error event) event := by
  cases event with
  | getFile file query => exact (do_get_file_steps localMode file query error state accounted allowed.2).2
  | downloadFileResult handlerId result =>
      obtain ⟨_, callback, known, about⟩ := allowed
      have only (other : DownloadFileCallback) (found : state.handlers.lookup handlerId = some other) :
          other = callback := Option.some.inj (found.symm.trans known)
      simp only [step, onResult, known]
      cases result with
      | error failure =>
          intro other found
          rw [only other found]
          exact on_file_download_resolved callback.fileId (.error failure) _
      | ok file =>
          intro other found
          rw [only other found]
          apply notified_returning localMode handlerId
          apply updates_notified localMode file error _ _ (on_update_file_updates localMode file error _)
            (mark_started_accounted handlerId callback state accounted known)
          intro running member
          exact own_result_marked localMode handlerId callback file error state accounted marked known own file.id member
            (.inr running)
  | updateFile file =>
      exact updates_notified localMode file error _ _ (on_update_file_updates localMode file error state) accounted
        (fun _ member => marked file.id member)
  | authorizationClosing | authorizationLoggingOut => exact ⟨rfl, rfl⟩
  | authorizationClosed => exact ⟨rfl, on_closed_answers error state⟩

theorem joined_marked (fileId : FileId) (query : Query) (state : State) (marked : Marked state) :
    Marked (joined fileId query state) := by
  intro other member
  obtain ⟨listener, waits, returned⟩ := marked other member
  refine ⟨listener, ?_, returned⟩
  rw [joined_listeners]
  split
  · rename_i same
    exact List.mem_append_left _ (same ▸ waits)
  · exact waits

theorem step_marked (state : State) (error : ClosingError) (event : Event) (allowed : enabled state event)
    (own : OwnResults localMode state (event, error)) (accounted : Accounted state) (marked : Marked state) :
    Marked (step localMode state error event) := by
  cases event with
  | getFile file query =>
      have kept := joined_marked file.id query state marked
      have joins := joined_accounted file.id query state accounted allowed.2
      simp only [step, doGetFile]
      split
      · exact marked
      · unfold sendDownloadFile
        split
        · exact on_file_download_marked file.id _ (joined file.id query state) (fun other member _ => kept other member)
            (joins.started file.id)
        · exact kept
  | downloadFileResult handlerId result =>
      obtain ⟨_, callback, known, about⟩ := allowed
      simp only [step, onResult, known]
      cases result with
      | error failure =>
          exact on_file_download_marked callback.fileId _ { state with handlers := state.handlers.erase handlerId }
            (fun other member _ => marked other member) (accounted.started callback.fileId)
      | ok file =>
          apply updates_marked localMode file error _ _ (on_update_file_updates localMode file error _)
            (mark_started_accounted handlerId callback state accounted known)
          intro other member running
          rw [about file rfl] at running
          exact own_result_marked localMode handlerId callback file error state accounted marked known own other member
            running
  | updateFile file =>
      apply updates_marked localMode file error _ _ (on_update_file_updates localMode file error state) accounted
      exact fun other member _ => marked other member
  | authorizationClosing | authorizationLoggingOut => exact marked
  | authorizationClosed =>
      intro fileId member
      cases member

structure ListenersSound (state : State) : Prop where
  started : ∀ fileId ∈ state.downloadStartedFileIds, isFileBeingDownloaded fileId state = true
  nonempty : ∀ fileId queries, state.fileDownloadListeners.lookup fileId = some queries → queries ≠ []
  once : ∀ query ∈ state.requested, (state.answers.map Prod.fst).count query + state.waiting.count query = 1
  others : ∀ entry ∈ state.answers, entry.1 ∈ state.requested

theorem listeners_sound (state : State) (accounted : Accounted state) : ListenersSound state := by
  refine ⟨accounted.started, accounted.nonempty, ?_, ?_⟩
  · intro query asked
    have counted := congrArg (Multiset.count query) accounted.account
    have once : state.requested.count query = 1 := List.count_eq_one_of_mem (List.Nodup.of_map _ accounted.distinct) asked
    rw [Multiset.count_add, Multiset.coe_count, Multiset.coe_count, once] at counted
    exact counted
  · intro entry member
    rw [← Multiset.mem_coe, ← accounted.account]
    exact Multiset.mem_add.2 (.inl (List.mem_map_of_mem member))

theorem idle_accounted : Accounted {} ∧ Marked {} := by
  refine ⟨⟨rfl, List.nodup_nil, ?_, ?_, ?_, ?_, ?_⟩, ?_⟩
  · intro fileId member
    cases member
  · intro fileId queries found
    cases found
  · intro handlerId callback known
    cases known
  · intro query member
    cases member
  · rintro fileId ⟨query, member, _⟩
    cases member
  · intro fileId member
    cases member

theorem downloads_follow :
    (∀ state, Transition.Reach (downloads localMode) Transition.unrestricted state → ListenersSound state) ∧
    ∀ state, Transition.Reach (downloads localMode) (OwnResults localMode) state →
      ∀ event error, enabled state event → OwnResults localMode state (event, error) →
        Follows localMode state error (step localMode state error event) event := by
  constructor
  · intro state reached
    apply listeners_sound
    apply Transition.reach_invariant (downloads localMode) Transition.unrestricted Accounted _ _ state reached
    · intro first initial
      cases initial
      exact idle_accounted.1
    · intro before after event held allowed _ done
      cases done
      exact step_accounted localMode before event.2 event.1 allowed held
  · intro state reached event error allowed own
    have both : Accounted state ∧ Marked state := by
      apply Transition.reach_invariant (downloads localMode) (OwnResults localMode)
        (fun state => Accounted state ∧ Marked state) _ _ state reached
      · intro first initial
        cases initial
        exact idle_accounted
      · intro before after event held allowed own done
        cases done
        exact ⟨step_accounted localMode before event.2 event.1 allowed held.1,
          step_marked localMode before event.2 event.1 allowed own held.1 held.2⟩
    exact step_follows localMode state error event allowed own both.1 both.2

end Steps

section Stale

instance (fileId : FileId) (state : State) : Decidable (Returned fileId state) :=
  inferInstanceAs (Decidable (∃ query ∈ state.listeners fileId, query ∈ state.returned))

def video : File := { id := 7 }

def startedVideo : File := { video with isDownloadingActive := true }

def fileQuery (id : Nat) : Query where
  id := id
  method := "getfile"

def online : ClosingError := ⟨0, 0, ""⟩

def afterEvents (events : List Event) : State := events.foldl (fun state event => step false state online event) {}

def stoppedDownload : List Event := [.getFile video (fileQuery 1), .downloadFileResult 0 (.ok startedVideo)]

theorem stopped_download_fails : Transition.Reach (downloads false) (OwnResults false) (afterEvents stoppedDownload) ∧
    Resolved 7 (.error wrongFileId) (afterEvents stoppedDownload)
      (step false (afterEvents stoppedDownload) online (.updateFile video)) := by
  have reached : Transition.Reach (downloads false) (OwnResults false) (afterEvents stoppedDownload) := by
    apply Transition.reach_follows _ _ (stoppedDownload.map (·, online)) {} _ (.start _ rfl)
    refine ⟨⟨rfl, by decide⟩, trivial, _, rfl, ⟨rfl, ⟨7, fileQuery 1⟩, rfl, ?_⟩, ?_, _, rfl, rfl⟩
    · rintro file same
      cases same
      rfl
    · intro callback known
      cases known
      exact .inr (.inr (.inl (by decide)))
  have follows := (downloads_follow false).2 _ reached (.updateFile video) online ⟨rfl, trivial⟩ trivial
  exact ⟨reached, follows.stopped (by decide) rfl (by decide)⟩

-- The result of a request that has failed together with another one arrives while
-- a later request waits for the same file.
def lateResult : List Event :=
  [.getFile video (fileQuery 1), .getFile video (fileQuery 2),
    .downloadFileResult 0 (.error ⟨500, "Request aborted"⟩), .getFile video (fileQuery 3),
    .downloadFileResult 1 (.ok startedVideo)]

theorem late_result_fails_next : Transition.Reach (downloads false) Transition.unrestricted (afterEvents lateResult) ∧
    enabled (afterEvents lateResult) (.updateFile video) ∧ ¬ Returned 7 (afterEvents lateResult) ∧
    ¬ Unaffected (afterEvents lateResult) (step false (afterEvents lateResult) online (.updateFile video)) := by
  refine ⟨?_, ⟨rfl, trivial⟩, by decide, fun unaffected => absurd unaffected.1 (by decide)⟩
  apply Transition.reach_follows _ _ (lateResult.map (·, online)) {} _ (.start _ rfl)
  refine ⟨⟨rfl, by decide⟩, trivial, _, rfl, ⟨rfl, by decide⟩, trivial, _, rfl, ⟨rfl, ⟨7, fileQuery 1⟩, rfl, ?_⟩, trivial, _,
    rfl, ⟨rfl, by decide⟩, trivial, _, rfl, ⟨rfl, ⟨7, fileQuery 2⟩, rfl, ?_⟩, trivial, _, rfl, rfl⟩
  · rintro file same
    cases same
  · rintro file same
    cases same
    rfl

end Stale

end TelegramBotApi.FileDownloads
