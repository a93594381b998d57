import Mathlib

set_option autoImplicit false

-- Texts as sequences of UTF-16 code units, in which surrogates may stand alone.
namespace Utf16

abbrev Units := List UInt16

def isLead (unit : UInt16) : Bool := 0xD800 ≤ unit.toNat && unit.toNat ≤ 0xDBFF

def isTrail (unit : UInt16) : Bool := 0xDC00 ≤ unit.toNat && unit.toNat ≤ 0xDFFF

inductive Piece where
  | point (char : Char)
  | lone (unit : UInt16)
deriving DecidableEq

def pairChar (lead trail : UInt16) : Char :=
  Char.ofNat (0x10000 + (lead.toNat - 0xD800) * 0x400 + (trail.toNat - 0xDC00))

def single (unit : UInt16) : Piece := if isLead unit || isTrail unit then .lone unit else .point (Char.ofNat unit.toNat)

def pieces : Units → List Piece
  | [] => []
  | [unit] => [single unit]
  | first :: second :: rest =>
      if isLead first && isTrail second then .point (pairChar first second) :: pieces rest
      else single first :: pieces (second :: rest)

def unitsOf (char : Char) : Units :=
  if char.toNat < 0x10000 then [UInt16.ofNat char.toNat]
  else [UInt16.ofNat (0xD800 + (char.toNat - 0x10000) / 0x400), UInt16.ofNat (0xDC00 + (char.toNat - 0x10000) % 0x400)]

def Piece.units : Piece → Units
  | .point char => unitsOf char
  | .lone unit => [unit]

def ofString (text : String) : Units := text.toList.flatMap unitsOf

theorem unit_of_nat (unit : UInt16) (value : Nat) (same : value = unit.toNat) : UInt16.ofNat value = unit := by
  rw [same]
  exact UInt16.ofNat_toNat

theorem char_of_nat (value : Nat) (valid : value < 0xD800 ∨ 0xDFFF < value ∧ value < 0x110000) :
    (Char.ofNat value).toNat = value := by
  have isValid : value.isValidChar := valid
  rw [Char.ofNat, dif_pos isValid]
  rfl

theorem single_units (unit : UInt16) : (single unit).units = [unit] := by
  have bound := unit.toNat_lt
  unfold single
  split
  · rfl
  · rename_i plain
    simp only [isLead, isTrail, Bool.or_eq_true, Bool.and_eq_true, decide_eq_true_eq, not_or, not_and] at plain
    have value : (Char.ofNat unit.toNat).toNat = unit.toNat := char_of_nat _ (by omega)
    rw [Piece.units, unitsOf, value, if_pos (by omega), unit_of_nat unit _ rfl]

theorem pair_units (lead trail : UInt16) (isLeading : isLead lead = true) (isTrailing : isTrail trail = true) :
    unitsOf (pairChar lead trail) = [lead, trail] := by
  simp only [isLead, isTrail, Bool.and_eq_true, decide_eq_true_eq] at isLeading isTrailing
  have value : (pairChar lead trail).toNat = 0x10000 + (lead.toNat - 0xD800) * 0x400 + (trail.toNat - 0xDC00) :=
    char_of_nat _ (by omega)
  rw [unitsOf, value, if_neg (by omega), unit_of_nat lead _ (by omega), unit_of_nat trail _ (by omega)]

theorem pieces_units (units : Units) : (pieces units).flatMap Piece.units = units := by
  induction units using pieces.induct with
  | case1 => rfl
  | case2 unit => simp [pieces, single_units]
  | case3 first second rest pair ih =>
      simp only [Bool.and_eq_true] at pair
      simp [pieces, pair.1, pair.2, Piece.units, pair_units first second pair.1 pair.2, ih]
  | case4 first second rest other ih => simp [pieces, other, single_units, ih]

theorem to_nat_of_nat (value : Nat) (small : value < 0x10000) : (UInt16.ofNat value).toNat = value :=
  UInt16.toNat_ofNat_of_lt' small

theorem char_valid (char : Char) : char.toNat < 0xD800 ∨ 0xDFFF < char.toNat ∧ char.toNat < 0x110000 := char.valid

theorem single_of_char (char : Char) (small : char.toNat < 0x10000) :
    isLead (UInt16.ofNat char.toNat) = false ∧ single (UInt16.ofNat char.toNat) = .point char := by
  have valid := char_valid char
  have value := to_nat_of_nat char.toNat small
  have lead : isLead (UInt16.ofNat char.toNat) = false := by
    rw [isLead, value, Bool.and_eq_false_iff, decide_eq_false_iff_not, decide_eq_false_iff_not]
    omega
  have trail : isTrail (UInt16.ofNat char.toNat) = false := by
    rw [isTrail, value, Bool.and_eq_false_iff, decide_eq_false_iff_not, decide_eq_false_iff_not]
    omega
  refine ⟨lead, ?_⟩
  rw [single, lead, trail, value, Char.ofNat_toNat]
  rfl

theorem pieces_of_char (char : Char) (rest : Units) : pieces (unitsOf char ++ rest) = .point char :: pieces rest := by
  have valid := char_valid char
  unfold unitsOf
  split
  · rename_i small
    obtain ⟨lead, one⟩ := single_of_char char small
    cases rest with
    | nil => simp [pieces, one]
    | cons second rest => simp [pieces, lead, one]
  · have lead := to_nat_of_nat (0xD800 + (char.toNat - 0x10000) / 0x400) (by omega)
    have trail := to_nat_of_nat (0xDC00 + (char.toNat - 0x10000) % 0x400) (by omega)
    have leads : isLead (UInt16.ofNat (0xD800 + (char.toNat - 0x10000) / 0x400)) = true := by
      rw [isLead, lead, Bool.and_eq_true, decide_eq_true_eq, decide_eq_true_eq]
      omega
    have trails : isTrail (UInt16.ofNat (0xDC00 + (char.toNat - 0x10000) % 0x400)) = true := by
      rw [isTrail, trail, Bool.and_eq_true, decide_eq_true_eq, decide_eq_true_eq]
      omega
    have code : 0x10000 + (0xD800 + (char.toNat - 0x10000) / 0x400 - 0xD800) * 0x400 +
        (0xDC00 + (char.toNat - 0x10000) % 0x400 - 0xDC00) = char.toNat := by omega
    rw [List.cons_append, List.cons_append, List.nil_append, pieces, leads, trails, pairChar, lead, trail, code,
      Char.ofNat_toNat]
    rfl

theorem pieces_of_string (chars : List Char) : pieces (chars.flatMap unitsOf) = chars.map Piece.point := by
  induction chars with
  | nil => rfl
  | cons char chars ih => rw [List.flatMap_cons, pieces_of_char, ih, List.map_cons]

end Utf16
