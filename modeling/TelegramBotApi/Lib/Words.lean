import Mathlib.Tactic

set_option autoImplicit false

-- Sums and differences of 32-bit integers as the machine computes them.
namespace Words

def int32Max : Int := 2 ^ 31 - 1

def addInt32 (first last : Int) : Int := Int.bmod (first + last) (2 ^ 32)

def subInt32 (first last : Int) : Int := Int.bmod (first - last) (2 ^ 32)

theorem add_int32_exact (first last : Int) (low : 0 ≤ first + last) (high : first + last ≤ int32Max) :
    addInt32 first last = first + last := by
  apply Int.bmod_eq_of_le
  · omega
  · unfold int32Max at high
    omega

theorem add_int32_wraps (first last : Int) (low : int32Max < first + last) (high : first + last < 2 ^ 32) :
    addInt32 first last < 0 := by
  unfold int32Max at low
  have wrapped : addInt32 first last = first + last - 2 ^ 32 := by
    rw [addInt32, ← Int.sub_bmod_right]
    apply Int.bmod_eq_of_le <;> omega
  rw [wrapped]
  omega

end Words
