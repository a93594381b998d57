import Mathlib

set_option autoImplicit false

-- Computations that stop at the first failed assertion. Meets says which faults
-- a computation may stop with and what holds of every value it returns.
namespace Checked

variable {Fault α β : Type}

def require (fault : Fault) (holds : Prop) [Decidable holds] : Except Fault Unit :=
  if holds then .ok () else .error fault

def Meets (allowed : Fault → Prop) (post : α → Prop) : Except Fault α → Prop
  | .ok value => post value
  | .error fault => allowed fault

abbrev Passes (post : α → Prop) (computation : Except Fault α) : Prop := Meets (fun _ => False) post computation

@[simp] theorem meets_ok (allowed : Fault → Prop) (post : α → Prop) (value : α) :
    Meets allowed post (.ok value : Except Fault α) ↔ post value := Iff.rfl

@[simp] theorem meets_pure (allowed : Fault → Prop) (post : α → Prop) (value : α) :
    Meets allowed post (pure value : Except Fault α) ↔ post value := Iff.rfl

@[simp] theorem meets_error (allowed : Fault → Prop) (post : α → Prop) (fault : Fault) :
    Meets allowed post (.error fault : Except Fault α) ↔ allowed fault := Iff.rfl

@[simp] theorem ok_bind (value : α) (next : α → Except Fault β) : (Except.ok value >>= next) = next value := rfl

theorem require_true (fault : Fault) (holds : Prop) [Decidable holds] (true : holds) : require fault holds = .ok () :=
  if_pos true

theorem meets_weaken (allowed : Fault → Prop) (strong weak : α → Prop) (computation : Except Fault α)
    (implies : ∀ value, strong value → weak value) (meets : Meets allowed strong computation) :
    Meets allowed weak computation := by
  cases computation with
  | ok value => exact implies value meets
  | error fault => exact meets

theorem meets_allow (few : Fault → Prop) (allowed : Fault → Prop) (post : α → Prop) (computation : Except Fault α)
    (implies : ∀ fault, few fault → allowed fault) (meets : Meets few post computation) : Meets allowed post computation := by
  cases computation with
  | ok value => exact meets
  | error fault => exact implies fault meets

theorem meets_and (allowed : Fault → Prop) (first last : α → Prop) (computation : Except Fault α)
    (begins : Meets allowed first computation) (ends : Meets allowed last computation) :
    Meets allowed (fun value => first value ∧ last value) computation := by
  cases computation with
  | ok value => exact ⟨begins, ends⟩
  | error fault => exact begins

theorem meets_bind (allowed : Fault → Prop) (middle : α → Prop) (post : β → Prop)
    (first : Except Fault α) (next : α → Except Fault β) (begins : Meets allowed middle first)
    (continues : ∀ value, middle value → Meets allowed post (next value)) :
    Meets allowed post (first >>= next) := by
  cases first with
  | ok value => exact continues value begins
  | error fault => exact begins

theorem meets_map_error {Part : Type} (wrap : Part → Fault) (post : α → Prop) (computation : Except Part α)
    (meets : Meets (fun _ => True) post computation) : Meets (fun _ => True) post (computation.mapError wrap) := by
  cases computation with
  | ok value => exact meets
  | error fault => exact trivial

-- A first computation that only reads: any failure of it is tolerated.
theorem meets_read (post : β → Prop) (first : Except Fault α) (next : α → Except Fault β)
    (continues : ∀ value, Meets (fun _ => True) post (next value)) :
    Meets (fun _ => True) post (first >>= next) := by
  cases first with
  | ok value => exact continues value
  | error fault => exact trivial

theorem meets_require (allowed : Fault → Prop) (fault : Fault) (holds : Prop) [Decidable holds]
    (post : β → Prop) (next : Unit → Except Fault β) (tolerated : ¬ holds → allowed fault)
    (continues : holds → Meets allowed post (next ())) :
    Meets allowed post (require fault holds >>= next) := by
  by_cases true : holds
  · rw [require, if_pos true]
    exact continues true
  · rw [require, if_neg true]
    exact tolerated true

-- The loop rule: the invariant may speak of the items still to come.
theorem meets_foldlM_rest (allowed : Fault → Prop) (inv : List α → β → Prop) (round : β → α → Except Fault β)
    (items : List α) (start : β) (initial : inv items start)
    (keeps : ∀ item rest state, inv (item :: rest) state → Meets allowed (inv rest) (round state item)) :
    Meets allowed (inv []) (items.foldlM round start) := by
  induction items generalizing start with
  | nil => exact initial
  | cons item rest ih =>
      rw [List.foldlM_cons]
      exact meets_bind allowed (inv rest) (inv []) _ _ (keeps item rest start initial) (fun state held => ih state held)

theorem meets_foldlM (allowed : Fault → Prop) (inv : β → Prop) (round : β → α → Except Fault β)
    (items : List α) (start : β) (initial : inv start)
    (keeps : ∀ state item, item ∈ items → inv state → Meets allowed inv (round state item)) :
    Meets allowed inv (items.foldlM round start) := by
  refine meets_weaken allowed _ inv _ (fun _ both => both.2)
    (meets_foldlM_rest allowed (fun rest state => rest ⊆ items ∧ inv state) round items start ⟨List.Subset.refl _, initial⟩ ?_)
  intro item rest state held
  exact meets_weaken allowed inv _ _ (fun _ kept => ⟨(List.cons_subset.1 held.1).2, kept⟩)
    (keeps state item (held.1 List.mem_cons_self) held.2)

def Along (condition : β → α → Prop) (round : β → α → Except Fault β) : β → List α → Prop
  | _, [] => True
  | state, item :: rest => condition state item ∧ ∀ after, round state item = .ok after → Along condition round after rest

theorem meets_foldlM_along (allowed : Fault → Prop) (condition : β → α → Prop) (inv : List α → β → Prop)
    (round : β → α → Except Fault β) (items : List α) (start : β) (initial : inv items start)
    (along : Along condition round start items)
    (keeps : ∀ item rest state, inv (item :: rest) state → condition state item → Meets allowed (inv rest) (round state item)) :
    Meets allowed (inv []) (items.foldlM round start) := by
  induction items generalizing start with
  | nil => exact initial
  | cons item rest ih =>
      have kept := keeps item rest start initial along.1
      rw [List.foldlM_cons]
      cases returned : round start item with
      | error fault =>
          rw [returned] at kept
          exact kept
      | ok after =>
          rw [returned] at kept
          exact ih after kept (along.2 after returned)

theorem along_of_inv (condition : β → α → Prop) (inv : β → Prop) (round : β → α → Except Fault β) (items : List α)
    (start : β) (initial : inv start) (holds : ∀ state item, inv state → condition state item)
    (keeps : ∀ state item, inv state → Meets (fun _ => True) inv (round state item)) : Along condition round start items := by
  induction items generalizing start with
  | nil => trivial
  | cons item rest ih =>
      refine ⟨holds start item initial, fun after done => ih after ?_⟩
      have kept := keeps start item initial
      rw [done] at kept
      exact kept

theorem along_of_forall (condition : α → Prop) (round : β → α → Except Fault β) (items : List α) (start : β)
    (all : ∀ item ∈ items, condition item) : Along (fun _ item => condition item) round start items := by
  induction items generalizing start with
  | nil => trivial
  | cons item rest ih =>
      refine ⟨all item List.mem_cons_self, fun after _ => ih after ?_⟩
      exact fun other member => all other (List.mem_cons_of_mem item member)

theorem along_iff (offered condition other : β → α → Prop) (inv : β → Prop) (round : β → α → Except Fault β)
    (items : List α) (start : β) (initial : inv start) (along : Along offered round start items)
    (same : ∀ state item, inv state → offered state item → (condition state item ↔ other state item))
    (keeps : ∀ state item, inv state → offered state item → Meets (fun _ => True) inv (round state item)) :
    Along condition round start items ↔ Along other round start items := by
  induction items generalizing start with
  | nil => exact Iff.rfl
  | cons item rest ih =>
      have kept := keeps start item initial along.1
      have here := same start item initial along.1
      have later (after : β) (done : round start item = .ok after) :
          Along condition round after rest ↔ Along other round after rest := by
        rw [done] at kept
        exact ih after kept (along.2 after done)
      constructor
      · rintro ⟨holds, rest⟩
        exact ⟨here.1 holds, fun after done => (later after done).1 (rest after done)⟩
      · rintro ⟨holds, rest⟩
        exact ⟨here.2 holds, fun after done => (later after done).2 (rest after done)⟩

theorem meets_mapM_all (allowed : Fault → Prop) (post : β → Prop) (round : α → Except Fault β) (items : List α)
    (keeps : ∀ item, item ∈ items → Meets allowed post (round item)) :
    Meets allowed (fun values => ∀ value ∈ values, post value) (items.mapM round) := by
  induction items with
  | nil =>
      intro value member
      cases member
  | cons item rest ih =>
      rw [List.mapM_cons]
      refine meets_bind allowed post _ _ _ (keeps item List.mem_cons_self) (fun value holds => ?_)
      refine meets_bind allowed _ _ _ _ (ih (fun item member => keeps item (List.mem_cons_of_mem _ member)))
        (fun values all => ?_)
      intro other member
      rcases List.mem_cons.1 member with rfl | later
      · exact holds
      · exact all other later

theorem meets_mapM (allowed : Fault → Prop) (round : α → Except Fault β) (items : List α)
    (keeps : ∀ item, item ∈ items → Meets allowed (fun _ => True) (round item)) :
    Meets allowed (fun _ => True) (items.mapM round) :=
  meets_weaken allowed _ _ _ (fun _ _ => trivial) (meets_mapM_all allowed (fun _ => True) round items keeps)

theorem mapM_related {Source : Type} (before : Source → α → Prop) (after : Source → β → Prop) (round : α → Except Fault β)
    (sources : List Source) (items : List α) (related : List.Forall₂ before sources items)
    (one : ∀ source item, item ∈ items → before source item → ∃ value, round item = .ok value ∧ after source value) :
    ∃ values, items.mapM round = .ok values ∧ List.Forall₂ after sources values := by
  induction related with
  | nil => exact ⟨[], rfl, .nil⟩
  | cons holds _ ih =>
      obtain ⟨value, done, relates⟩ := one _ _ List.mem_cons_self holds
      obtain ⟨values, rest, related⟩ := ih (fun source item member => one source item (List.mem_cons_of_mem _ member))
      exact ⟨value :: values, by rw [List.mapM_cons, done, ok_bind, rest, ok_bind]; rfl, .cons relates related⟩

theorem meets_returns (allowed : Fault → Prop) (post : α → Prop) (computation : Except Fault α) (value : α)
    (meets : Meets allowed post computation) (returned : computation = .ok value) : post value := by
  rw [returned] at meets
  exact meets

theorem meets_of_returns (post : α → Prop) (computation : Except Fault α)
    (returns : ∀ value, computation = .ok value → post value) : Meets (fun _ => True) post computation := by
  cases computation with
  | ok value => exact returns value rfl
  | error fault => exact trivial

theorem meets_fails (allowed : Fault → Prop) (post : α → Prop) (computation : Except Fault α) (fault : Fault)
    (meets : Meets allowed post computation) (failed : computation = .error fault) : allowed fault := by
  rw [failed] at meets
  exact meets

theorem passes_returns (post : α → Prop) (computation : Except Fault α) (passes : Passes post computation) :
    ∃ value, computation = .ok value ∧ post value := by
  cases computation with
  | ok value => exact ⟨value, rfl, passes⟩
  | error fault => exact passes.elim

end Checked
