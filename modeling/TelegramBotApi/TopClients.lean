import TelegramBotApi.Lib.Texts
import TelegramBotApi.Lib.TopSelection
import TelegramBotApi.ClientManager

set_option autoImplicit false

namespace TelegramBotApi

structure TopClients where
  activeCount : Nat := 0
  topClientIds : List Nat := []

namespace TopClients

open Tables TopSelection ClientManager Texts

-- Times are in seconds. The score is the double that get_score computes.
structure BotStat (Score : Type) where
  lastActivityTimestamp : Int
  score : Score

def BotStat.isActive {Score : Type} (stat : BotStat Score) (now : Int) : Bool := decide (now - 86400 < stat.lastActivityTimestamp)

structure Scan where
  activeCount : Nat := 0
  topClientIds : List (Int × Nat) := []

-- operator< of std::pair, as the order it sorts by
def pairLe (first last : Int × Nat) : Bool := decide (first.1 < last.1 ∨ first.1 = last.1 ∧ first.2 ≤ last.2)

section Selection

-- static_cast<int64>(score * -1e9) of a score that is not negative is the opposite of nanounits score.
variable {Score : Type} (nanounits : Score → Nat) (stats : Nat → BotStat Score)

def score (id : Nat) : Nat := nanounits (stats id).score

def ranked (id : Nat) : Int × Nat := (-(score nanounits stats id : Int), id)

def scanClient (now : Int) (maxCount : Nat) (tokenFilter : String) (result : Scan) (client : (_ : Nat) × ClientInfo) : Scan :=
  let counted := if (stats client.1).isActive now then { result with activeCount := result.activeCount + 1 } else result
  if !beginsWith client.2.token tokenFilter then counted
  else
    let score : Int := -(nanounits (stats client.1).score : Int)
    if score = 0 ∧ maxCount ≤ counted.topClientIds.length then counted
    else { counted with topClientIds := counted.topClientIds ++ [(score, client.1)] }

-- clients_.ids() enumerates the container in the order of the entries of the table, which is any order.
def getTopClients (manager : Manager) (now : Int) (maxCount : Nat) (tokenFilter : String) : TopClients :=
  let scan := manager.clients.entries.foldl (scanClient nanounits stats now maxCount tokenFilter) {}
  let maxCount := if scan.topClientIds.length < maxCount then scan.topClientIds.length else maxCount
  { activeCount := scan.activeCount
    topClientIds := (firstSorted pairLe maxCount scan.topClientIds).map Prod.snd }

end Selection

def matching (manager : Manager) (tokenFilter : String) : List Nat :=
  (manager.clients.entries.filter (fun client => beginsWith client.2.token tokenFilter)).map Sigma.fst

theorem pair_le_trans (first middle last : Int × Nat) (begins : pairLe first middle = true) (ends : pairLe middle last = true) :
    pairLe first last = true := by
  simp only [pairLe, decide_eq_true_eq] at *
  omega

theorem pair_le_total (first last : Int × Nat) : (pairLe first last || pairLe last first) = true := by
  simp only [pairLe, Bool.or_eq_true, decide_eq_true_eq]
  omega

theorem pair_le_score (first last : Int × Nat) (ordered : pairLe first last = true) : first.1 ≤ last.1 := by
  simp only [pairLe, decide_eq_true_eq] at ordered
  omega

section Scan

variable {Score : Type} (nanounits : Score → Nat) (stats : Nat → BotStat Score) (now : Int) (maxCount : Nat)
  (tokenFilter : String)

theorem scan_client_top (result : Scan) (client : (_ : Nat) × ClientInfo) :
    (scanClient nanounits stats now maxCount tokenFilter result client).topClientIds =
      if beginsWith client.2.token tokenFilter = true ∧
        ¬ (score nanounits stats client.1 = 0 ∧ maxCount ≤ result.topClientIds.length)
      then result.topClientIds ++ [ranked nanounits stats client.1] else result.topClientIds := by
  have counted : (if (stats client.1).isActive now then
    { result with activeCount := result.activeCount + 1 } else result).topClientIds =
      result.topClientIds := by
    split <;> rfl
  by_cases same : beginsWith client.2.token tokenFilter = true
  · by_cases skipped : score nanounits stats client.1 = 0 ∧ maxCount ≤ result.topClientIds.length
    · have zero : nanounits (stats client.1).score = 0 := skipped.1
      simp [scanClient, counted, same, zero, score, skipped.2]
    · have kept : ¬ (nanounits (stats client.1).score = 0 ∧ maxCount ≤ result.topClientIds.length) := skipped
      simp [scanClient, counted, same, kept, ranked, score]
  · simp [scanClient, counted, same]

theorem scan_client_active (result : Scan) (client : (_ : Nat) × ClientInfo) :
    (scanClient nanounits stats now maxCount tokenFilter result client).activeCount =
      result.activeCount + if (stats client.1).isActive now then 1 else 0 := by
  simp only [scanClient]
  split_ifs <;> simp

theorem scan_active (clients : List ((_ : Nat) × ClientInfo)) (result : Scan) :
    (clients.foldl (scanClient nanounits stats now maxCount tokenFilter) result).activeCount =
      result.activeCount + clients.countP (fun client => (stats client.1).isActive now) := by
  induction clients generalizing result with
  | nil => simp
  | cons client tail ih =>
      rw [List.foldl_cons, ih, scan_client_active, List.countP_cons]
      omega

structure Skipped (seen : List (Int × Nat)) (result : Scan) (skipped : List (Int × Nat)) : Prop where
  split : (result.topClientIds ++ skipped).Perm seen
  zero : ∀ pair ∈ skipped, pair.1 = 0
  enough : skipped = [] ∨ maxCount ≤ result.topClientIds.length

theorem scan_client_skipped (seen skipped : List (Int × Nat)) (result : Scan) (client : (_ : Nat) × ClientInfo)
    (inv : Skipped maxCount seen result skipped) :
    ∃ next, Skipped maxCount
      (seen ++ if beginsWith client.2.token tokenFilter then [ranked nanounits stats client.1] else [])
      (scanClient nanounits stats now maxCount tokenFilter result client) next := by
  have top := scan_client_top nanounits stats now maxCount tokenFilter result client
  by_cases same : beginsWith client.2.token tokenFilter = true
  · rw [if_pos same]
    by_cases skip : score nanounits stats client.1 = 0 ∧ maxCount ≤ result.topClientIds.length
    · rw [if_neg (fun kept => kept.2 skip)] at top
      refine ⟨skipped ++ [ranked nanounits stats client.1], ?_, ?_, Or.inr ?_⟩
      · rw [top, ← List.append_assoc]
        exact inv.split.append_right _
      · intro pair member
        rcases List.mem_append.1 member with old | new
        · exact inv.zero pair old
        · simp [List.mem_singleton.1 new, ranked, skip.1]
      · rw [top]
        exact skip.2
    · rw [if_pos ⟨same, skip⟩] at top
      refine ⟨skipped, ?_, inv.zero, ?_⟩
      · rw [top, List.append_assoc]
        exact ((List.perm_append_comm).append_left _).trans (by simpa using inv.split.append_right _)
      · rw [top, List.length_append]
        exact inv.enough.imp_right (fun enough => by omega)
  · rw [if_neg (fun kept => same kept.1)] at top
    rw [if_neg same, List.append_nil]
    exact ⟨skipped, by rw [top]; exact inv.split, inv.zero, by rw [top]; exact inv.enough⟩

theorem scan_skipped (clients : List ((_ : Nat) × ClientInfo)) (seen skipped : List (Int × Nat)) (result : Scan)
    (inv : Skipped maxCount seen result skipped) :
    ∃ last, Skipped maxCount
      (seen ++ (clients.filter (fun client => beginsWith client.2.token tokenFilter)).map
        (fun client => ranked nanounits stats client.1))
      (clients.foldl (scanClient nanounits stats now maxCount tokenFilter) result) last := by
  induction clients generalizing seen skipped result with
  | nil => exact ⟨skipped, by simpa using inv⟩
  | cons client tail ih =>
      obtain ⟨next, invNext⟩ := scan_client_skipped nanounits stats now maxCount tokenFilter seen skipped result client inv
      obtain ⟨last, invLast⟩ := ih _ _ _ invNext
      refine ⟨last, ?_⟩
      by_cases same : beginsWith client.2.token tokenFilter = true
      · simpa [same] using invLast
      · simpa [same] using invLast

end Scan

section Result

variable {Score : Type} (nanounits : Score → Nat) (stats : Nat → BotStat Score) (manager : Manager) (now : Int)
variable (maxCount : Nat) (tokenFilter : String)

theorem ranked_matching : (matching manager tokenFilter).map (ranked nanounits stats) =
    (manager.clients.entries.filter (fun client => beginsWith client.2.token tokenFilter)).map
      (fun client => ranked nanounits stats client.1) := by
  simp [matching, Function.comp_def]

theorem matching_nodup : (matching manager tokenFilter).Nodup := by
  have keys : manager.clients.keys.Nodup := AList.keys_nodup manager.clients
  exact keys.sublist (List.Sublist.map Sigma.fst List.filter_sublist)

theorem top_split : ∃ selected left skipped : List (Int × Nat),
    (getTopClients nanounits stats manager now maxCount tokenFilter).topClientIds = selected.map Prod.snd ∧
    (selected ++ left ++ skipped).Perm ((matching manager tokenFilter).map (ranked nanounits stats)) ∧
    selected.length = min maxCount (matching manager tokenFilter).length ∧
    selected.Pairwise (fun first last => first.1 ≤ last.1) ∧
    (∀ first ∈ selected, ∀ last ∈ left ++ skipped, first.1 ≤ last.1) ∧
    selected.map Prod.fst = (((matching manager tokenFilter).map (ranked nanounits stats)).map Prod.fst |>.mergeSort
      (fun first last => decide (first ≤ last))).take maxCount := by
  obtain ⟨skipped, inv⟩ := scan_skipped nanounits stats now maxCount tokenFilter manager.clients.entries [] [] {}
    ⟨List.Perm.nil, by simp, Or.inl rfl⟩
  rw [List.nil_append, ← ranked_matching] at inv
  generalize scanned : manager.clients.entries.foldl (scanClient nanounits stats now maxCount tokenFilter) {} = scan at inv
  have shrunk : firstSorted pairLe (if scan.topClientIds.length < maxCount then scan.topClientIds.length else maxCount)
      scan.topClientIds = firstSorted pairLe maxCount scan.topClientIds := by
    split
    · rw [firstSorted, firstSorted, List.take_of_length_le, List.take_of_length_le] <;> rw [List.length_mergeSort]
      omega
    · rfl
  have total : scan.topClientIds.length + skipped.length = (matching manager tokenFilter).length := by
    have lengths := inv.split.length_eq
    rwa [List.length_append, List.length_map] at lengths
  have nonpositive : ∀ pair ∈ scan.topClientIds, pair.1 ≤ 0 := by
    intro pair member
    obtain ⟨id, -, rfl⟩ := List.mem_map.1 (inv.split.subset (List.mem_append_left _ member))
    simp [ranked]
  refine ⟨firstSorted pairLe maxCount scan.topClientIds, rest pairLe maxCount scan.topClientIds, skipped, ?_, ?_, ?_, ?_, ?_, ?_⟩
  · simp only [getTopClients, scanned, shrunk]
  · exact ((first_perm pairLe maxCount scan.topClientIds).append_right skipped).trans inv.split
  · rw [first_length]
    rcases inv.enough with none | enough
    · rw [none, List.length_nil] at total
      omega
    · omega
  · exact (first_sorted pairLe pair_le_trans pair_le_total maxCount scan.topClientIds).imp (pair_le_score _ _)
  · intro first selected last omitted
    rcases List.mem_append.1 omitted with left | skip
    · exact pair_le_score _ _ (first_before_rest pairLe pair_le_trans pair_le_total maxCount _ first last selected left)
    · rw [inv.zero last skip]
      exact nonpositive first (mem_of_first pairLe maxCount _ first selected)
  · apply first_ranks pairLe pair_le_trans pair_le_total Prod.fst maxCount _ skipped _ pair_le_score inv.split _ inv.enough
    intro first kept last skip
    rw [inv.zero last skip]
    exact nonpositive first kept

def byScore (first last : Nat) : Bool := decide (score nanounits stats last ≤ score nanounits stats first)

theorem full_sort_scores : (firstSorted (byScore nanounits stats) maxCount (matching manager tokenFilter)).map
      (fun id => (ranked nanounits stats id).1) =
    (((matching manager tokenFilter).map (ranked nanounits stats)).map Prod.fst |>.mergeSort
      (fun first last => decide (first ≤ last))).take maxCount := by
  rw [List.map_map]
  apply first_ranks (byScore nanounits stats) _ _ (fun id => (ranked nanounits stats id).1) maxCount
    (matching manager tokenFilter) [] _ _ _ _ (Or.inl rfl)
  · intro first middle last begins ends
    simp only [byScore, decide_eq_true_eq] at *
    omega
  · intro first last
    simp only [byScore, Bool.or_eq_true, decide_eq_true_eq]
    omega
  · intro first last ordered
    simp only [byScore, decide_eq_true_eq] at ordered
    simp only [ranked]
    omega
  · rw [List.append_nil]
  · simp

structure Selected (top : TopClients) : Prop where
  count : top.topClientIds.length = min maxCount (matching manager tokenFilter).length
  distinct : top.topClientIds.Nodup
  filtered : ∀ id ∈ top.topClientIds, id ∈ matching manager tokenFilter
  sorted : top.topClientIds.Pairwise (fun first last => score nanounits stats last ≤ score nanounits stats first)
  highest : ∀ id ∈ top.topClientIds, ∀ omitted ∈ matching manager tokenFilter, omitted ∉ top.topClientIds →
    score nanounits stats omitted ≤ score nanounits stats id
  fullSort : top.topClientIds.map (score nanounits stats) =
    (firstSorted (byScore nanounits stats) maxCount (matching manager tokenFilter)).map (score nanounits stats)
  active : top.activeCount = manager.clients.entries.countP (fun client => (stats client.1).isActive now)

theorem top_clients_selected : Selected nanounits stats manager now maxCount tokenFilter
    (getTopClients nanounits stats manager now maxCount tokenFilter) := by
  obtain ⟨selected, left, skipped, ids, split, count, sorted, before, scores⟩ :=
    top_split nanounits stats manager now maxCount tokenFilter
  have pair : ∀ pair ∈ selected ++ left ++ skipped, pair = ranked nanounits stats pair.2 := by
    intro pair member
    obtain ⟨id, -, rfl⟩ := List.mem_map.1 (split.subset member)
    rfl
  have selectedPair : ∀ pair ∈ selected, pair.1 = -(score nanounits stats pair.2 : Int) := by
    intro found member
    rw [pair found (by simp [member])]
    rfl
  have idSplit : ((selected ++ left ++ skipped).map Prod.snd).Perm (matching manager tokenFilter) := by
    have perm := split.map Prod.snd
    simpa [Function.comp_def, ranked] using perm
  have distinct : ((selected ++ left ++ skipped).map Prod.snd).Nodup := idSplit.nodup_iff.2 (matching_nodup manager tokenFilter)
  constructor
  · rw [ids, List.length_map, count]
  · rw [ids]
    rw [List.append_assoc, List.map_append] at distinct
    exact (List.nodup_append.1 distinct).1
  · rw [ids]
    intro id member
    obtain ⟨found, selected, rfl⟩ := List.mem_map.1 member
    exact idSplit.subset (List.mem_map_of_mem (by simp [selected]))
  · rw [ids, List.pairwise_map]
    refine sorted.imp_of_mem (fun firstSelected lastSelected ordered => ?_)
    rw [selectedPair _ firstSelected, selectedPair _ lastSelected] at ordered
    omega
  · rw [ids]
    intro id member omitted present absent
    obtain ⟨found, foundSelected, rfl⟩ := List.mem_map.1 member
    obtain ⟨other, otherMember, rfl⟩ := List.mem_map.1 (idSplit.symm.subset present)
    have behind : other ∈ left ++ skipped := by
      rw [List.append_assoc] at otherMember
      rcases List.mem_append.1 otherMember with selectedToo | behind
      · exact absurd (List.mem_map_of_mem selectedToo) absent
      · exact behind
    have ordered := before found foundSelected other behind
    rw [selectedPair found foundSelected, pair other otherMember] at ordered
    simp only [ranked] at ordered
    omega
  · rw [ids]
    rw [← full_sort_scores] at scores
    have opposite : (selected.map Prod.snd).map (fun id => -(score nanounits stats id : Int)) = selected.map Prod.fst := by
      rw [List.map_map]
      exact List.map_congr_left (fun found member => (selectedPair found member).symm)
    have injective : Function.Injective (fun count : Nat => -(count : Int)) := fun first last same => by
      simpa using same
    apply List.map_injective_iff.2 injective
    simpa only [List.map_map, Function.comp_def, ranked] using opposite.trans scores
  · simp only [getTopClients]
    rw [scan_active]
    simp

end Result

end TopClients

end TelegramBotApi
