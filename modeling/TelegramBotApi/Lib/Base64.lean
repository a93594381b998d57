import Mathlib

set_option autoImplicit false

-- The standard alphabet with padding. decode is lenient: it drops what is not a
-- digit and the bits that do not fill a byte.
namespace Base64

def digitChar (value : Nat) : Char :=
  if value < 26 then Char.ofNat (65 + value)
  else if value < 52 then Char.ofNat (71 + value)
  else if value < 62 then Char.ofNat (value - 4)
  else if value = 62 then '+'
  else '/'

def digitValue (char : Char) : Option Nat :=
  if 65 ≤ char.toNat ∧ char.toNat ≤ 90 then some (char.toNat - 65)
  else if 97 ≤ char.toNat ∧ char.toNat ≤ 122 then some (char.toNat - 71)
  else if 48 ≤ char.toNat ∧ char.toNat ≤ 57 then some (char.toNat + 4)
  else if char = '+' then some 62
  else if char = '/' then some 63
  else none

-- Groups of three bytes as four numbers below 64.
def sextets : List UInt8 → List Nat
  | [] => []
  | [first] => [first.toNat / 4, first.toNat % 4 * 16]
  | [first, second] => [first.toNat / 4, first.toNat % 4 * 16 + second.toNat / 16, second.toNat % 16 * 4]
  | first :: second :: third :: rest =>
      first.toNat / 4 :: (first.toNat % 4 * 16 + second.toNat / 16) :: (second.toNat % 16 * 4 + third.toNat / 64) ::
        third.toNat % 64 :: sextets rest

def padding (length : Nat) : List Char :=
  if length % 3 = 1 then ['=', '='] else if length % 3 = 2 then ['='] else []

def encode (bytes : List UInt8) : List Char := (sextets bytes).map digitChar ++ padding bytes.length

def bytesOf : List Nat → List UInt8
  | first :: second :: third :: fourth :: rest =>
      UInt8.ofNat (first * 4 + second / 16) :: UInt8.ofNat (second % 16 * 16 + third / 4) ::
        UInt8.ofNat (third % 4 * 64 + fourth) :: bytesOf rest
  | [first, second, third] => [UInt8.ofNat (first * 4 + second / 16), UInt8.ofNat (second % 16 * 16 + third / 4)]
  | [first, second] => [UInt8.ofNat (first * 4 + second / 16)]
  | _ => []

def decode (chars : List Char) : List UInt8 := bytesOf (chars.filterMap digitValue)

def isDigit (char : Char) : Bool := (digitValue char).isSome

def WellFormed (chars : List Char) : Prop := chars.dropWhile isDigit ∈ [[], ['='], ['=', '=']]

instance (chars : List Char) : Decidable (WellFormed chars) :=
  inferInstanceAs (Decidable (chars.dropWhile isDigit ∈ [[], ['='], ['=', '=']]))

theorem digit_value_char (value : Nat) (small : value < 64) : digitValue (digitChar value) = some value := by
  revert value
  decide

theorem sextet_small (bytes : List UInt8) (value : Nat) (member : value ∈ sextets bytes) : value < 64 := by
  induction bytes using sextets.induct with
  | case1 => cases member
  | case2 first =>
      have bound := first.toNat_lt
      simp only [sextets, List.mem_cons, List.not_mem_nil, or_false] at member
      omega
  | case3 first second =>
      have bound := first.toNat_lt
      have boundSecond := second.toNat_lt
      simp only [sextets, List.mem_cons, List.not_mem_nil, or_false] at member
      omega
  | case4 first second third rest ih =>
      have bound := first.toNat_lt
      have boundSecond := second.toNat_lt
      have boundThird := third.toNat_lt
      simp only [sextets, List.mem_cons] at member
      rcases member with here | here | here | here | later
      · omega
      · omega
      · omega
      · omega
      · exact ih later

theorem of_nat_to_nat (byte : UInt8) (value : Nat) (same : value = byte.toNat) : UInt8.ofNat value = byte := by
  rw [same]
  exact UInt8.ofNat_toNat

theorem bytes_of_sextets (bytes : List UInt8) : bytesOf (sextets bytes) = bytes := by
  induction bytes using sextets.induct with
  | case1 => rfl
  | case2 first =>
      have bound := first.toNat_lt
      simp only [sextets, bytesOf]
      rw [of_nat_to_nat first _ (by omega)]
  | case3 first second =>
      have bound := first.toNat_lt
      have boundSecond := second.toNat_lt
      simp only [sextets, bytesOf]
      rw [of_nat_to_nat first _ (by omega), of_nat_to_nat second _ (by omega)]
  | case4 first second third rest ih =>
      have bound := first.toNat_lt
      have boundSecond := second.toNat_lt
      have boundThird := third.toNat_lt
      simp only [sextets, bytesOf, ih]
      rw [of_nat_to_nat first _ (by omega), of_nat_to_nat second _ (by omega), of_nat_to_nat third _ (by omega)]

theorem digits_kept (values : List Nat) (rest : List Char) (small : ∀ value, value ∈ values → value < 64) :
    (values.map digitChar ++ rest).filterMap digitValue = values ++ rest.filterMap digitValue := by
  induction values with
  | nil => rfl
  | cons value values ih =>
      have known := digit_value_char value (small value List.mem_cons_self)
      simp only [List.map_cons, List.cons_append, List.filterMap_cons, known,
        ih (fun other member => small other (List.mem_cons_of_mem value member))]

theorem digits_dropped (values : List Nat) (rest : List Char) (small : ∀ value, value ∈ values → value < 64) :
    (values.map digitChar ++ rest).dropWhile isDigit = rest.dropWhile isDigit := by
  induction values with
  | nil => rfl
  | cons value values ih =>
      have digit : isDigit (digitChar value) = true := by
        rw [isDigit, digit_value_char value (small value List.mem_cons_self)]
        rfl
      rw [List.map_cons, List.cons_append, List.dropWhile_cons_of_pos digit]
      exact ih fun other member => small other (List.mem_cons_of_mem value member)

theorem padding_cases (length : Nat) :
    length % 3 = 0 ∧ padding length = [] ∨ length % 3 = 1 ∧ padding length = ['=', '='] ∨
      length % 3 = 2 ∧ padding length = ['='] := by
  unfold padding
  have bound := Nat.mod_lt length (show 0 < 3 by omega)
  by_cases one : length % 3 = 1
  · exact .inr (.inl ⟨one, if_pos one⟩)
  · rw [if_neg one]
    by_cases two : length % 3 = 2
    · exact .inr (.inr ⟨two, if_pos two⟩)
    · exact .inl ⟨by omega, if_neg two⟩

theorem decode_encode (bytes : List UInt8) : decode (encode bytes) = bytes := by
  have ignored : (padding bytes.length).filterMap digitValue = [] := by
    rcases padding_cases bytes.length with ⟨_, same⟩ | ⟨_, same⟩ | ⟨_, same⟩ <;> rw [same] <;> rfl
  rw [decode, encode, digits_kept _ _ (sextet_small bytes), ignored, List.append_nil, bytes_of_sextets]

theorem encode_well_formed (bytes : List UInt8) : WellFormed (encode bytes) := by
  rw [WellFormed, encode, digits_dropped _ _ (sextet_small bytes)]
  rcases padding_cases bytes.length with ⟨_, same⟩ | ⟨_, same⟩ | ⟨_, same⟩ <;> rw [same] <;> decide

theorem sextets_length (bytes : List UInt8) :
    (sextets bytes).length = bytes.length / 3 * 4 + (if bytes.length % 3 = 0 then 0 else bytes.length % 3 + 1) := by
  induction bytes using sextets.induct with
  | case1 => rfl
  | case2 first => simp [sextets]
  | case3 first second => simp [sextets]
  | case4 first second third rest ih =>
      have next : (first :: second :: third :: rest).length = rest.length + 3 := rfl
      rw [next, show (rest.length + 3) / 3 = rest.length / 3 + 1 by omega, Nat.add_mod_right, sextets]
      simp only [List.length_cons, ih]
      omega

theorem encode_size (bytes : List UInt8) : (encode bytes).length = (bytes.length + 2) / 3 * 4 := by
  rw [encode, List.length_append, List.length_map, sextets_length]
  rcases padding_cases bytes.length with ⟨rest, same⟩ | ⟨rest, same⟩ | ⟨rest, same⟩ <;> rw [same, rest] <;> simp <;> omega

theorem encode_length (bytes : List UInt8) : (encode bytes).length % 4 = 0 := by
  rw [encode_size]
  exact Nat.mul_mod_left _ 4

theorem encode_chars (bytes : List UInt8) (char : Char) (member : char ∈ encode bytes) :
    char = '=' ∨ ∃ value < 64, char = digitChar value := by
  rcases List.mem_append.1 member with digit | padded
  · obtain ⟨value, sextet, rfl⟩ := List.mem_map.1 digit
    exact .inr ⟨value, sextet_small bytes value sextet, rfl⟩
  · left
    rcases padding_cases bytes.length with ⟨_, same⟩ | ⟨_, same⟩ | ⟨_, same⟩ <;> rw [same] at padded
    · cases padded
    · simpa using padded
    · simpa using padded

end Base64
