import Mathlib

set_option autoImplicit false

-- Slots that keep what they hold while the value offered compares equal to it,
-- and the comparisons that look at one reading of their arguments only.
namespace Slots

variable {α β : Type}

def Compares (same : α → α → Bool) (read : α → β) : Prop :=
  ∀ first last, same first last = true ↔ read first = read last

theorem compares_refl (same : α → α → Bool) (read : α → β) (compares : Compares same read) (value : α) :
    same value value = true :=
  (compares value value).2 rfl

theorem compares_symm (same : α → α → Bool) (read : α → β) (compares : Compares same read) (first last : α)
    (equal : same first last = true) : same last first = true :=
  (compares last first).2 ((compares first last).1 equal).symm

theorem compares_trans (same : α → α → Bool) (read : α → β) (compares : Compares same read) (first middle last : α)
    (begins : same first middle = true) (ends : same middle last = true) : same first last = true :=
  (compares first last).2 (((compares first middle).1 begins).trans ((compares middle last).1 ends))

-- A missing value is the same as a missing value only.
def optional (same : α → α → Bool) : Option α → Option α → Bool
  | none, none => true
  | some first, some last => same first last
  | _, _ => false

theorem compares_optional (same : α → α → Bool) (read : α → β) (compares : Compares same read) :
    Compares (optional same) (Option.map read) := by
  intro first last
  cases first with
  | none => cases last <;> simp [optional]
  | some first =>
      cases last with
      | none => simp [optional]
      | some last => simpa [optional] using compares first last

-- The sizes first, then the items in pairs.
def pairwise (same : α → α → Bool) (first last : List α) : Bool :=
  first.length == last.length && (first.zip last).all (fun pair => same pair.1 pair.2)

theorem compares_pairwise (same : α → α → Bool) (read : α → β) (compares : Compares same read) :
    Compares (pairwise same) (List.map read) := by
  intro first
  induction first with
  | nil =>
      intro last
      cases last <;> simp [pairwise]
  | cons item first ih =>
      intro last
      cases last with
      | nil => simp [pairwise]
      | cons other last =>
          have here := compares item other
          have rest := ih last
          simp only [pairwise, Bool.and_eq_true, beq_iff_eq] at rest
          simp only [pairwise, List.length_cons, List.zip_cons_cons, List.all_cons, List.map_cons, List.cons.injEq,
            Bool.and_eq_true, beq_iff_eq, Nat.add_right_cancel_iff, ← here, ← rest]
          tauto

structure Slot (α : Type) where
  held : α
  changed : Bool

def Slot.offer (same : α → α → Bool) (slot : Slot α) (offered : α) : Slot α :=
  if same slot.held offered then slot else ⟨offered, true⟩

theorem offer_same (same : α → α → Bool) (read : α → β) (compares : Compares same read) (slot : Slot α) (offered : α) :
    same (slot.offer same offered).held offered = true := by
  by_cases equal : same slot.held offered = true
  · rw [Slot.offer, if_pos equal]
    exact equal
  · rw [Slot.offer, if_neg equal]
    exact compares_refl same read compares offered

theorem offer_changed (same : α → α → Bool) (slot : Slot α) (offered : α) :
    (slot.offer same offered).changed = true ↔ slot.changed = true ∨ same slot.held offered = false := by
  by_cases equal : same slot.held offered = true
  · simp [Slot.offer, equal]
  · simp [Slot.offer, equal]

theorem offer_kept (same : α → α → Bool) (slot : Slot α) (offered : α) (equal : same slot.held offered = true) :
    slot.offer same offered = slot :=
  if_pos equal

end Slots
