import Mathlib

set_option autoImplicit false

-- Counters that learn what is opened and closed from a log, read at their own pace. A reader
-- knows the entries it has counted as open; the rest of its log tells the way to what is open now.
namespace OpenEntries

inductive Entry (Item : Type) where
  | opened (item : Item)
  | closed (item : Item)
  | other
deriving DecidableEq

variable {Item : Type}

theorem measure_nonneg (weight : Item → ℤ) (nonneg : ∀ item, 0 ≤ weight item) (known : Multiset Item) :
    0 ≤ (known.map weight).sum := by
  apply Multiset.sum_nonneg
  intro value member
  obtain ⟨item, -, same⟩ := Multiset.mem_map.1 member
  exact same ▸ nonneg item

variable [DecidableEq Item]

-- Nothing is closed that is not open.
def apply (known : Multiset Item) : Entry Item → Option (Multiset Item)
  | .opened item => some (item ::ₘ known)
  | .closed item => if item ∈ known then some (known.erase item) else none
  | .other => some known

def replay (known : Multiset Item) : List (Entry Item) → Option (Multiset Item)
  | [] => some known
  | entry :: entries => (apply known entry).bind (replay · entries)

theorem apply_closed (known next : Multiset Item) (item : Item) (applied : apply known (.closed item) = some next) :
    item ∈ known ∧ next = known.erase item := by
  by_cases member : item ∈ known
  · simp only [apply, if_pos member] at applied
    exact ⟨member, (Option.some.inj applied).symm⟩
  · simp [apply, member] at applied

theorem apply_closed_cons (known : Multiset Item) (item : Item) :
    apply (item ::ₘ known) (.closed item) = some known := by
  simp [apply]

theorem replay_append (known : Multiset Item) (first last : List (Entry Item)) :
    replay known (first ++ last) = (replay known first).bind (replay · last) := by
  induction first generalizing known with
  | nil => rfl
  | cons entry first ih => simp [replay, ih, Option.bind_assoc]

theorem replay_snoc (known now next : Multiset Item) (entries : List (Entry Item)) (entry : Entry Item)
    (leads : replay known entries = some now) (applied : apply now entry = some next) :
    replay known (entries ++ [entry]) = some next := by
  simp [replay_append, leads, replay, applied]

theorem replay_cons (known now : Multiset Item) (entries : List (Entry Item)) (entry : Entry Item)
    (leads : replay known (entry :: entries) = some now) :
    ∃ next, apply known entry = some next ∧ replay next entries = some now :=
  Option.bind_eq_some_iff.1 leads

theorem apply_add (known next more : Multiset Item) (entry : Entry Item) (applied : apply known entry = some next) :
    apply (known + more) entry = some (next + more) := by
  cases entry with
  | opened item =>
      cases applied
      exact congrArg some (Multiset.cons_add item known more).symm
  | other =>
      cases applied
      rfl
  | closed item =>
      obtain ⟨member, rfl⟩ := apply_closed known next item applied
      simp only [apply, if_pos (Multiset.mem_add.2 (.inl member)), Multiset.erase_add_left_pos more member]

def change (weight : Item → ℤ) : Entry Item → ℤ
  | .opened item => weight item
  | .closed item => -weight item
  | .other => 0

theorem measure_apply (weight : Item → ℤ) (known next : Multiset Item) (entry : Entry Item)
    (applied : apply known entry = some next) :
    (next.map weight).sum = (known.map weight).sum + change weight entry := by
  cases entry with
  | opened item =>
      cases applied
      simp [change, add_comm]
  | other =>
      cases applied
      simp [change]
  | closed item =>
      obtain ⟨member, rfl⟩ := apply_closed known next item applied
      have split : (known.map weight).sum = weight item + ((known.erase item).map weight).sum := by
        rw [← Multiset.sum_cons, ← Multiset.map_cons, Multiset.cons_erase member]
      rw [split, change]
      ring

end OpenEntries
