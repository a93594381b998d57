import Mathlib

set_option autoImplicit false

namespace Texts

def beginsWith (text start : String) : Bool := start.toList.isPrefixOf text.toList

theorem begins_with_iff (text start : String) : beginsWith text start = true ↔ ∃ rest, text = start ++ rest := by
  simp only [beginsWith, List.isPrefixOf_iff_prefix]
  constructor
  · rintro ⟨rest, same⟩
    exact ⟨String.ofList rest, String.toList_injective (by simp [same])⟩
  · rintro ⟨rest, rfl⟩
    exact ⟨rest.toList, by simp⟩

@[simp] theorem begins_with_append (start rest : String) : beginsWith (start ++ rest) start = true :=
  (begins_with_iff _ _).2 ⟨rest, rfl⟩

@[simp] theorem begins_with_self (text : String) : beginsWith text text = true :=
  (begins_with_iff _ _).2 ⟨"", by simp⟩

-- td::is_space
def isSpace (char : Char) : Bool :=
  char = ' ' || char = '\t' || char = '\r' || char = '\n' || char = '\x00' || char = '\x0b'

def strip (dropped : Char → Bool) (chars : List Char) : List Char :=
  ((chars.dropWhile dropped).reverse.dropWhile dropped).reverse

def toLower (text : String) : String := String.ofList (text.toList.map Char.toLower)

-- substr of td::Slice
def substr (text : String) (count : Nat) : String := String.ofList (text.toList.drop count)

theorem substr_append (start rest : String) : substr (start ++ rest) start.toList.length = rest := by
  simp [substr]

theorem append_ne_self (start text : String) (something : start ≠ "") : start ++ text ≠ text := by
  intro same
  have lengths := congrArg (fun text : String => text.toList.length) same
  simp at lengths
  exact something lengths

end Texts
