import Mathlib

set_option autoImplicit false

-- Authenticated encryption as an ideal functionality: whoever knows a key can
-- make boxes with it, and a box opens only if it was made.
namespace IdealBox

variable {Key Nonce Text Cipher : Type}

structure Scheme (Key Nonce Text Cipher : Type) where
  after : Text → Nonce → Key → Cipher
  injective : ∀ text other nonce key, after text nonce key = after other nonce key → text = other

structure Box (Key Nonce Text : Type) where
  key : Key
  nonce : Nonce
  text : Text

variable [DecidableEq Key] [DecidableEq Nonce] [DecidableEq Cipher] (scheme : Scheme Key Nonce Text Cipher)

def Scheme.openAfter (boxes : List (Box Key Nonce Text)) (cipher : Cipher) (nonce : Nonce) (key : Key) : Option Text :=
  (boxes.find? fun box => box.key = key ∧ box.nonce = nonce ∧ scheme.after box.text nonce key = cipher).map Box.text

theorem open_after_iff (boxes : List (Box Key Nonce Text)) (cipher : Cipher) (nonce : Nonce) (key : Key) (text : Text) :
    scheme.openAfter boxes cipher nonce key = some text ↔
      ⟨key, nonce, text⟩ ∈ boxes ∧ scheme.after text nonce key = cipher := by
  unfold Scheme.openAfter
  constructor
  · intro opened
    obtain ⟨box, found, rfl⟩ := Option.map_eq_some_iff.1 opened
    have matched : box.key = key ∧ box.nonce = nonce ∧ scheme.after box.text nonce key = cipher := by
      simpa only [decide_eq_true_eq] using List.find?_some found
    obtain ⟨rfl, rfl, produced⟩ := matched
    exact ⟨List.mem_of_find?_eq_some found, produced⟩
  · rintro ⟨made, produced⟩
    have some : (boxes.find? fun box =>
        box.key = key ∧ box.nonce = nonce ∧ scheme.after box.text nonce key = cipher).isSome = true := by
      rw [List.find?_isSome]
      exact ⟨_, made, decide_eq_true ⟨rfl, rfl, produced⟩⟩
    obtain ⟨box, found⟩ := Option.isSome_iff_exists.1 some
    have matched : box.key = key ∧ box.nonce = nonce ∧ scheme.after box.text nonce key = cipher := by
      simpa only [decide_eq_true_eq] using List.find?_some found
    -- another box with the same key, nonce and ciphertext has the same text
    have same := scheme.injective box.text text nonce key (matched.2.2.trans produced.symm)
    rw [found, Option.map_some, same]

end IdealBox
