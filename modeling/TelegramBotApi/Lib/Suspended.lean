import TelegramBotApi.Lib.Transition

set_option autoImplicit false

-- Computations over a state that others change too. A computation may stop to
-- ask its environment; the answer finds the state that has come about by then,
-- is absorbed into it and the computation goes on from there.
namespace Suspended

open Checked

inductive Program (Shared Request Answer Fault Result : Type) where
  | done (result : Result)
  | fault (check : Fault)
  | ask (request : Request) (absorb : Shared → Answer → Shared)
      (resume : Shared → Answer → Program Shared Request Answer Fault Result)

section Programs

variable {Shared Update Request Answer Fault First Last : Type}

def Program.andThen (next : Shared → First → Program Shared Request Answer Fault Last) :
    Shared → Program Shared Request Answer Fault First → Program Shared Request Answer Fault Last
  | now, .done result => next now result
  | _, .fault check => .fault check
  | _, .ask request absorb resume =>
      .ask request absorb (fun now answer => Program.andThen next now (resume now answer))

-- What a program relies on, and what it guarantees to the others when it
-- absorbs an answer.
structure World (Shared Update Request Answer : Type) where
  inv : Shared → Prop
  changes : Shared → Shared → Prop
  refl : ∀ now, changes now now
  trans : ∀ first middle last, changes first middle → changes middle last → changes first last
  apply : Shared → Update → Shared
  allowed : Shared → Update → Prop
  applied : ∀ now update, inv now → allowed now update → inv (apply now update) ∧ changes now (apply now update)
  answers : Shared → Request → Answer → Prop

variable (world : World Shared Update Request Answer)

structure Timeline (past : List Shared) (now : Shared) : Prop where
  inv : world.inv now
  past : ∀ moment ∈ past, world.inv moment ∧ world.changes moment now

def Meets (post : List Shared → Shared → Last → Prop) :
    List Shared → Shared → Program Shared Request Answer Fault Last → Prop
  | past, now, .done result => post past now result
  | _, _, .fault _ => False
  | past, now, .ask request absorb resume => ∀ later answer, world.inv later → world.changes now later →
      world.answers later request answer →
      world.inv (absorb later answer) ∧ world.changes later (absorb later answer) ∧
        Meets post (now :: past) (absorb later answer) (resume (absorb later answer) answer)

theorem timeline_start (now : Shared) (inv : world.inv now) : Timeline world [] now :=
  ⟨inv, fun _ member => nomatch member⟩

theorem timeline_absorbed (past : List Shared) (now later after : Shared) (timeline : Timeline world past now)
    (waited : world.changes now later) (inv : world.inv after) (absorbed : world.changes later after) :
    Timeline world (now :: past) after := by
  have reached := world.trans now later after waited absorbed
  refine ⟨inv, fun moment member => ?_⟩
  rcases List.mem_cons.1 member with rfl | old
  · exact ⟨timeline.inv, reached⟩
  · exact ⟨(timeline.past moment old).1, world.trans moment now after (timeline.past moment old).2 reached⟩

theorem timeline_mem (past : List Shared) (now : Shared) (timeline : Timeline world past now) (moment : Shared)
    (member : moment ∈ now :: past) : world.inv moment ∧ world.changes moment now := by
  rcases List.mem_cons.1 member with rfl | old
  · exact ⟨timeline.inv, world.refl moment⟩
  · exact timeline.past moment old

theorem meets_and_then (first : List Shared → Shared → First → Prop) (last : List Shared → Shared → Last → Prop)
    (next : Shared → First → Program Shared Request Answer Fault Last) (past : List Shared) (now : Shared)
    (program : Program Shared Request Answer Fault First) (timeline : Timeline world past now)
    (begins : Meets world first past now program)
    (continues : ∀ more later result, Timeline world more later → (now :: past) <:+ (later :: more) →
      first more later result → Meets world last more later (next later result)) :
    Meets world last past now (program.andThen next now) := by
  induction program generalizing past now with
  | done result => exact continues past now result timeline List.suffix_rfl begins
  | fault check => exact begins
  | ask request absorb resume ih =>
      intro later answer inv waited answers
      obtain ⟨kept, absorbed, rest⟩ := begins later answer inv waited answers
      refine ⟨kept, absorbed, ih _ _ _ _ (timeline_absorbed world past now later _ timeline waited kept absorbed) rest ?_⟩
      intro more latest result line longer held
      exact continues more latest result line ((List.suffix_cons _ _).trans longer) held

theorem meets_weaken (strong weak : List Shared → Shared → Last → Prop) (past : List Shared) (now : Shared)
    (program : Program Shared Request Answer Fault Last) (timeline : Timeline world past now)
    (meets : Meets world strong past now program)
    (implies : ∀ more later result, Timeline world more later → (now :: past) <:+ (later :: more) →
      strong more later result → weak more later result) :
    Meets world weak past now program := by
  induction program generalizing past now with
  | done result => exact implies past now result timeline List.suffix_rfl meets
  | fault check => exact meets
  | ask request absorb resume ih =>
      intro later answer inv waited answers
      obtain ⟨kept, absorbed, rest⟩ := meets later answer inv waited answers
      refine ⟨kept, absorbed, ih _ _ _ _ (timeline_absorbed world past now later _ timeline waited kept absorbed) rest ?_⟩
      intro more latest result line longer held
      exact implies more latest result line ((List.suffix_cons _ _).trans longer) held

def Sometime (holds : Shared → Prop) (past : List Shared) (now : Shared) : Prop := ∃ moment ∈ now :: past, holds moment

theorem sometime_now (holds : Shared → Prop) (past : List Shared) (now : Shared) (held : holds now) :
    Sometime holds past now := ⟨now, List.mem_cons_self, held⟩

theorem sometime_later (holds : Shared → Prop) (past more : List Shared) (now later : Shared)
    (longer : (now :: past) <:+ (later :: more)) (held : Sometime holds past now) : Sometime holds more later := by
  obtain ⟨moment, member, held⟩ := held
  exact ⟨moment, longer.subset member, held⟩

end Programs

-- Any number of programs over one state, with the environment's updates and
-- answers in any order.
section Pools

variable {Shared Update Request Answer Fault Start Result : Type}

structure Job (Shared Request Answer Fault Start Result : Type) where
  start : Start
  past : List Shared
  last : Shared
  program : Program Shared Request Answer Fault Result

structure Finished (Shared Start Result : Type) where
  start : Start
  past : List Shared
  last : Shared
  result : Result

structure Pool (Shared Request Answer Fault Start Result : Type) where
  shared : Shared
  jobs : List (Job Shared Request Answer Fault Start Result) := []
  finished : List (Finished Shared Start Result) := []
  started : List Start := []

inductive Event (Update Answer Start : Type) where
  | start (start : Start)
  | update (update : Update)
  | answer (index : Nat) (answer : Answer)

variable (world : World Shared Update Request Answer)
variable (begin : Start → Shared → Program Shared Request Answer Fault Result)

def place (job : Job Shared Request Answer Fault Start Result) (pool : Pool Shared Request Answer Fault Start Result) :
    Except Fault (Pool Shared Request Answer Fault Start Result) :=
  match job.program with
  | .done result =>
      .ok { pool with shared := job.last, finished := pool.finished ++ [⟨job.start, job.past, job.last, result⟩] }
  | .fault check => .error check
  | .ask _ _ _ => .ok { pool with shared := job.last, jobs := pool.jobs ++ [job] }

def step (pool : Pool Shared Request Answer Fault Start Result) :
    Event Update Answer Start → Except Fault (Pool Shared Request Answer Fault Start Result)
  | .start start =>
      place ⟨start, [], pool.shared, begin start pool.shared⟩ { pool with started := pool.started ++ [start] }
  | .update update => .ok { pool with shared := world.apply pool.shared update }
  | .answer index answer =>
      match pool.jobs[index]? with
      | some ⟨start, past, last, .ask _ absorb resume⟩ =>
          let now := absorb pool.shared answer
          place ⟨start, last :: past, now, resume now answer⟩ { pool with jobs := pool.jobs.eraseIdx index }
      | _ => .ok pool

def enabled (pool : Pool Shared Request Answer Fault Start Result) : Event Update Answer Start → Prop
  | .start _ => True
  | .update update => world.allowed pool.shared update
  | .answer index answer => ∀ job request absorb resume, pool.jobs[index]? = some job →
      job.program = .ask request absorb resume → world.answers pool.shared request answer

def machine : Transition.Machine (Pool Shared Request Answer Fault Start Result) (Event Update Answer Start) Fault where
  start pool := world.inv pool.shared ∧ pool.jobs = [] ∧ pool.finished = [] ∧ pool.started = []
  enabled := enabled world
  step := step world begin

variable (post : Start → List Shared → Shared → Result → Prop)

structure JobSound (shared : Shared) (job : Job Shared Request Answer Fault Start Result) : Prop where
  timeline : Timeline world job.past job.last
  waited : world.changes job.last shared
  meets : Meets world (post job.start) job.past job.last job.program

structure PoolSound (pool : Pool Shared Request Answer Fault Start Result) : Prop where
  inv : world.inv pool.shared
  jobs : ∀ job ∈ pool.jobs, JobSound world post pool.shared job
  finished : ∀ job ∈ pool.finished, Timeline world job.past job.last ∧ post job.start job.past job.last job.result
  -- what was started is still running or has finished, once
  kept : (pool.jobs.map Job.start ++ pool.finished.map Finished.start).Perm pool.started

theorem place_sound (job : Job Shared Request Answer Fault Start Result) (pool : Pool Shared Request Answer Fault Start Result)
    (timeline : Timeline world job.past job.last) (meets : Meets world (post job.start) job.past job.last job.program)
    (changed : world.changes pool.shared job.last) (jobs : ∀ other ∈ pool.jobs, JobSound world post pool.shared other)
    (finished : ∀ other ∈ pool.finished,
      Timeline world other.past other.last ∧ post other.start other.past other.last other.result)
    (kept : (job.start :: (pool.jobs.map Job.start ++ pool.finished.map Finished.start)).Perm pool.started) :
    Passes (PoolSound world post) (place job pool) := by
  obtain ⟨start, past, last, program⟩ := job
  have later (other : Job Shared Request Answer Fault Start Result) (member : other ∈ pool.jobs) :
      JobSound world post last other :=
    ⟨(jobs other member).timeline, world.trans _ _ _ (jobs other member).waited changed, (jobs other member).meets⟩
  cases program with
  | fault check => exact meets
  | done result =>
      refine ⟨timeline.inv, later, fun other member => ?_, ?_⟩
      · rcases List.mem_append.1 member with old | new
        · exact finished other old
        · cases List.mem_singleton.1 new
          exact ⟨timeline, meets⟩
      · refine List.Perm.trans ?_ kept
        rw [List.map_append, List.map_singleton, ← List.append_assoc]
        exact List.perm_append_singleton _ _
  | ask request absorb resume =>
      refine ⟨timeline.inv, fun other member => ?_, finished, ?_⟩
      · rcases List.mem_append.1 member with old | new
        · exact later other old
        · cases List.mem_singleton.1 new
          exact ⟨timeline, world.refl last, meets⟩
      · refine List.Perm.trans ?_ kept
        rw [List.map_append, List.map_singleton, List.append_assoc]
        exact List.perm_middle

variable (begins : ∀ start now, world.inv now → Meets world (post start) [] now (begin start now))

include begins in
theorem step_sound (pool : Pool Shared Request Answer Fault Start Result) (event : Event Update Answer Start)
    (sound : PoolSound world post pool) (offered : enabled world pool event) :
    Passes (PoolSound world post) (step world begin pool event) := by
  cases event with
  | start start =>
      refine place_sound world post _ { pool with started := pool.started ++ [start] }
        (timeline_start world pool.shared sound.inv) (begins start pool.shared sound.inv) (world.refl _) sound.jobs
        sound.finished ?_
      exact (sound.kept.cons start).trans (List.perm_append_singleton start pool.started).symm
  | update update =>
      obtain ⟨inv, changed⟩ := world.applied pool.shared update sound.inv offered
      refine ⟨inv, fun job member => ?_, sound.finished, sound.kept⟩
      obtain ⟨timeline, waited, meets⟩ := sound.jobs job member
      exact ⟨timeline, world.trans _ _ _ waited changed, meets⟩
  | answer index answer =>
      rw [step]
      split
      · rename_i start past last request absorb resume found
        have member := List.mem_of_getElem? found
        obtain ⟨timeline, waited, meets⟩ := sound.jobs _ member
        obtain ⟨kept, absorbed, rest⟩ := meets pool.shared answer sound.inv waited (offered _ request absorb resume found rfl)
        refine place_sound world post _ _ (timeline_absorbed world past last pool.shared _ timeline waited kept absorbed) rest
          absorbed (fun other inside => sound.jobs other (List.mem_of_mem_eraseIdx inside)) sound.finished ?_
        obtain ⟨inside, same⟩ := List.getElem?_eq_some_iff.1 found
        refine List.Perm.trans ?_ sound.kept
        have taken := (List.getElem_cons_eraseIdx_perm inside).map Job.start
        rw [same] at taken
        exact taken.append_right _
      · exact sound

theorem initial_sound (pool : Pool Shared Request Answer Fault Start Result) (initial : (machine world begin).start pool) :
    PoolSound world post pool := by
  obtain ⟨inv, jobs, finished, started⟩ := initial
  refine ⟨inv, ?_, ?_, ?_⟩
  · simp [jobs]
  · simp [finished]
  · simp [jobs, finished, started]

include begins in
theorem pool_sound (pool : Pool Shared Request Answer Fault Start Result)
    (reached : Transition.Reach (machine world begin) Transition.unrestricted pool) : PoolSound world post pool :=
  Transition.reach_meets (machine world begin) _ (fun _ => False) (PoolSound world post) (initial_sound world begin post)
    (fun before event sound offered _ => step_sound world begin post begins before event sound offered) pool reached

include begins in
theorem pool_safe : Transition.Safe (machine world begin) Transition.unrestricted :=
  Transition.safe_of_passes (machine world begin) _ (PoolSound world post) (initial_sound world begin post)
    (fun before event sound offered _ => step_sound world begin post begins before event sound offered)

end Pools

end Suspended
