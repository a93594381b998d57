import Mathlib

set_option autoImplicit false

-- A log of identified items read through cursors. Reading from a cursor delivers
-- the next items and lets the log forget those before the cursor; a reader that
-- moves its cursor at most one past what it has read never loses an item.
namespace CursorLog

variable {Item : Type} (id : Item → Nat)

structure Log (Item : Type) where
  kept : List Item
  delivered : Set Item
  next : Nat

structure Inv (log : Log Item) : Prop where
  increasing : (log.kept.map id).Pairwise (· < ·)
  below : ∀ item ∈ log.kept, id item < log.next
  deliveredBelow : ∀ item ∈ log.delivered, id item < log.next
  inOrder : ∀ item ∈ log.kept, ∀ last ∈ log.delivered, id item ≤ id last → item ∈ log.delivered

def Justified (log : Log Item) (cursor : Nat) : Prop :=
  ∀ item ∈ log.kept, id item < cursor → item ∈ log.delivered

structure Read (excused : Item → Prop) (cursor : Nat) (batch before after : List Item) : Prop where
  sublist : after.Sublist before
  forgotten : ∀ item ∈ before, item ∉ after → id item < cursor ∨ excused item
  batch : batch <+: after.filter (fun item => decide (cursor ≤ id item))

def Log.append (log : Log Item) (item : Item) : Log Item :=
  { log with kept := log.kept ++ [item], next := id item + 1 }

def Log.deliver (log : Log Item) (batch after : List Item) : Log Item :=
  { log with kept := after, delivered := log.delivered ∪ {item | item ∈ batch} }

theorem justified_of_delivered (log : Log Item) (inv : Inv id log) (cursor : Nat) (last : Item)
    (delivered : last ∈ log.delivered) (next : cursor ≤ id last + 1) : Justified id log cursor := by
  intro item member before
  apply inv.inOrder item member last delivered
  omega

theorem justified_of_first (log : Log Item) (cursor : Nat) (first : ∀ item ∈ log.kept, cursor ≤ id item) :
    Justified id log cursor := by
  intro item member before
  have above := first item member
  omega

theorem mem_of_prefix (batch items : List Item) (increasing : (items.map id).Pairwise (· < ·)) (taken : batch <+: items)
    (item last : Item) (member : item ∈ items) (reached : last ∈ batch) (before : id item ≤ id last) : item ∈ batch := by
  obtain ⟨rest, rfl⟩ := taken
  rw [List.map_append, List.pairwise_append] at increasing
  rcases List.mem_append.1 member with inBatch | later
  · exact inBatch
  · have above := increasing.2.2 (id last) (List.mem_map_of_mem reached) (id item) (List.mem_map_of_mem later)
    omega

theorem append_inv (log : Log Item) (item : Item) (inv : Inv id log) (fresh : log.next ≤ id item) :
    Inv id (log.append id item) where
  increasing := by
    change ((log.kept ++ [item]).map id).Pairwise (· < ·)
    rw [List.map_append, List.pairwise_append]
    refine ⟨inv.increasing, List.pairwise_singleton _ _, ?_⟩
    intro first member last same
    obtain ⟨old, present, rfl⟩ := List.mem_map.1 member
    rw [List.map_singleton, List.mem_singleton] at same
    rw [same]
    exact Nat.lt_of_lt_of_le (inv.below old present) fresh
  below other member := by
    rcases List.mem_append.1 member with old | new
    · have below := inv.below other old
      change id other < id item + 1
      omega
    · rw [List.mem_singleton.1 new]
      exact Nat.lt_succ_self _
  deliveredBelow other delivered := by
    have below := inv.deliveredBelow other delivered
    change id other < id item + 1
    omega
  inOrder other member last delivered before := by
    rcases List.mem_append.1 member with old | new
    · exact inv.inOrder other old last delivered before
    · have below := inv.deliveredBelow last delivered
      rw [List.mem_singleton.1 new] at before
      omega

theorem read_inv (log : Log Item) (excused : Item → Prop) (cursor : Nat) (batch after : List Item) (inv : Inv id log)
    (justified : Justified id log cursor) (read : Read id excused cursor batch log.kept after) :
    Inv id (log.deliver batch after) where
  increasing := inv.increasing.sublist (read.sublist.map id)
  below item member := inv.below item (read.sublist.subset member)
  deliveredBelow item delivered := by
    rcases delivered with old | new
    · exact inv.deliveredBelow item old
    · exact inv.below item (read.sublist.subset (List.mem_filter.1 (read.batch.subset new)).1)
  inOrder item member last delivered before := by
    have old := read.sublist.subset member
    rcases delivered with earlier | now
    · exact .inl (inv.inOrder item old last earlier before)
    · by_cases passed : id item < cursor
      · exact .inl (justified item old passed)
      · apply Or.inr
        have sorted : ((after.filter (fun item => decide (cursor ≤ id item))).map id).Pairwise (· < ·) :=
          inv.increasing.sublist ((List.filter_sublist.trans read.sublist).map id)
        exact mem_of_prefix id batch _ sorted read.batch item last
          (List.mem_filter.2 ⟨member, decide_eq_true (Nat.not_lt.1 passed)⟩) now before

end CursorLog
