import Mathlib

set_option autoImplicit false

-- The first elements of a sort, and which elements may be left out of it.
namespace TopSelection

variable {Item Rank : Type} (le : Item → Item → Bool)

def firstSorted (count : Nat) (items : List Item) : List Item := (items.mergeSort le).take count

def rest (count : Nat) (items : List Item) : List Item := (items.mergeSort le).drop count

theorem first_length (count : Nat) (items : List Item) : (firstSorted le count items).length = min count items.length := by
  rw [firstSorted, List.length_take, List.length_mergeSort]

theorem first_perm (count : Nat) (items : List Item) : (firstSorted le count items ++ rest le count items).Perm items := by
  rw [firstSorted, rest, List.take_append_drop]
  exact List.mergeSort_perm items le

theorem mem_of_first (count : Nat) (items : List Item) (item : Item) (member : item ∈ firstSorted le count items) :
    item ∈ items :=
  (first_perm le count items).mem_iff.1 (List.mem_append_left _ member)

section Ordered

variable (trans : ∀ first middle last : Item, le first middle = true → le middle last = true → le first last = true)
variable (total : ∀ first last : Item, (le first last || le last first) = true)

include trans total

theorem all_sorted (items : List Item) : (items.mergeSort le).Pairwise (fun first last => le first last = true) :=
  List.pairwise_mergeSort trans total items

theorem first_sorted (count : Nat) (items : List Item) :
    (firstSorted le count items).Pairwise (fun first last => le first last = true) :=
  (all_sorted le trans total items).sublist (List.take_sublist count _)

theorem first_before_rest (count : Nat) (items : List Item) (first last : Item)
    (selected : first ∈ firstSorted le count items) (omitted : last ∈ rest le count items) : le first last = true := by
  have sorted := all_sorted le trans total items
  rw [← List.take_append_drop count (items.mergeSort le), List.pairwise_append] at sorted
  exact sorted.2.2 first selected last omitted

theorem first_ranks [LinearOrder Rank] (rank : Item → Rank) (count : Nat) (kept dropped items : List Item)
    (monotone : ∀ first last, le first last = true → rank first ≤ rank last) (split : (kept ++ dropped).Perm items)
    (large : ∀ first ∈ kept, ∀ last ∈ dropped, rank first ≤ rank last) (enough : dropped = [] ∨ count ≤ kept.length) :
    (firstSorted le count kept).map rank = ((items.map rank).mergeSort (fun first last => decide (first ≤ last))).take count := by
  have sorted : ((kept.mergeSort le ++ dropped.mergeSort le).map rank).Pairwise (· ≤ ·) := by
    rw [List.pairwise_map, List.pairwise_append]
    refine ⟨(all_sorted le trans total kept).imp (fun ordered => monotone _ _ ordered),
      (all_sorted le trans total dropped).imp (fun ordered => monotone _ _ ordered), ?_⟩
    intro first keptFirst last droppedLast
    exact large first (List.mem_mergeSort.1 keptFirst) last (List.mem_mergeSort.1 droppedLast)
  have fullSorted : ((items.map rank).mergeSort (fun first last => decide (first ≤ last))).Pairwise (· ≤ ·) := by
    refine (List.pairwise_mergeSort ?_ ?_ (items.map rank)).imp (fun ordered => of_decide_eq_true ordered)
    · intro first middle last begins ends
      exact decide_eq_true ((of_decide_eq_true begins).trans (of_decide_eq_true ends))
    · intro first last
      simpa using le_total first last
  have perm : ((kept.mergeSort le ++ dropped.mergeSort le).map rank).Perm
      ((items.map rank).mergeSort (fun first last => decide (first ≤ last))) := by
    refine List.Perm.trans (List.Perm.map rank ?_) (List.mergeSort_perm _ _).symm
    exact ((List.mergeSort_perm kept le).append (List.mergeSort_perm dropped le)).trans split
  rw [← List.Perm.eq_of_pairwise' sorted fullSorted perm, firstSorted, List.map_append, List.map_take]
  rcases enough with none | enough
  · rw [none, List.mergeSort_nil, List.map_nil, List.append_nil]
  · rw [List.take_append_of_le_length]
    rwa [List.length_map, List.length_mergeSort]

end Ordered

end TopSelection
