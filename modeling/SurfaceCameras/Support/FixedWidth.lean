import Mathlib.Tactic.Common
import Mathlib.Data.Nat.Notation
import Mathlib.Data.Int.Notation
import Mathlib.Order.Lattice
import Mathlib.Algebra.Group.Nat.Defs

/-!
# Fixed-width integer arithmetic of C

The rounding and clamping macros that kernel code uses on 32-bit integers,
with the wrap-around of the machine type where an argument can reach it.  Bit
vectors carry the arguments; the lemmas move their values to `ℕ` and `ℤ`.
-/

namespace SurfaceCameras
namespace FixedWidth

/-- `ALIGN(x, a)`: round up to a multiple of the power of two `a`, wrapping
at 32 bits. -/
def align (x a : BitVec 32) : BitVec 32 := (x + (a - 1)) &&& ~~~(a - 1)

/-- `ALIGN_DOWN(x, a)` and, for any divisor, `rounddown(x, a)`. -/
def roundDown (x a : ℕ) : ℕ := x - x % a

/-- `clamp(val, lo, hi)`.  With `hi < lo` the upper bound wins. -/
def clamp {α : Type} [LinearOrder α] (val lo hi : α) : α :=
  if hi ≤ val then hi else if val ≤ lo then lo else val

theorem and_not_one_toNat (y : BitVec 32) :
    (y &&& ~~~1#32).toNat = y.toNat / 2 * 2 := by
  have hshift : y &&& ~~~1#32 = (y >>> 1) <<< 1 := by
    apply BitVec.eq_of_getElem_eq
    intro i hi
    rw [BitVec.getElem_and, BitVec.getElem_not, BitVec.getElem_shiftLeft,
      BitVec.getElem_one]
    cases i with
    | zero => simp
    | succ i => simp [Nat.add_comm 1 i, ← BitVec.getLsbD_eq_getElem hi]
  rw [hshift, BitVec.toNat_shiftLeft, BitVec.toNat_ushiftRight,
    Nat.shiftRight_eq_div_pow, Nat.shiftLeft_eq]
  have := y.isLt
  omega

/-- Aligning to two, on the unsigned value. -/
theorem align_two_toNat (x : BitVec 32) :
    (align x 2).toNat = (x.toNat + 1) % 2 ^ 32 / 2 * 2 := by
  have hmask : (2 : BitVec 32) - 1 = 1#32 := by decide
  rw [align, hmask, and_not_one_toNat, BitVec.toNat_add]
  rfl

theorem align_two_toNat_even (x : BitVec 32) : (align x 2).toNat % 2 = 0 := by
  rw [align_two_toNat]
  omega

/-- Aligning to two leaves an even signed value. -/
theorem align_two_toInt_even (x : BitVec 32) : (align x 2).toInt % 2 = 0 := by
  have := align_two_toNat_even x
  rw [BitVec.toInt_eq_toNat_cond]
  split <;> omega

/-- A field of `n` bits, cut out by a mask. -/
theorem field_toNat (x mask : BitVec 32) {k n : ℕ}
    (h : mask.toNat >>> k = 2 ^ n - 1) :
    ((x &&& mask) >>> k).toNat = x.toNat / 2 ^ k % 2 ^ n := by
  rw [BitVec.toNat_ushiftRight, BitVec.toNat_and, Nat.shiftRight_and_distrib,
    Nat.shiftRight_eq_div_pow, h]
  exact Nat.and_two_pow_sub_one_eq_mod (x.toNat / 2 ^ k) n

/-- The low bits of a value. -/
theorem lowField_toNat (x mask : BitVec 32) {n : ℕ}
    (h : mask.toNat = 2 ^ n - 1) : (x &&& mask).toNat = x.toNat % 2 ^ n := by
  rw [BitVec.toNat_and, h]
  exact Nat.and_two_pow_sub_one_eq_mod x.toNat n

/-- The two low bytes of a value that fits 16 bits. -/
theorem lowBytes_toNat {x : BitVec 32} (h : x.toNat < 65536) :
    (((x &&& 0xff00) >>> 8).setWidth 8 : BitVec 8).toNat * 256 +
      ((x &&& 0x00ff).setWidth 8 : BitVec 8).toNat = x.toNat := by
  have hlow := lowField_toNat x 0x00ff (n := 8) rfl
  have hhigh := field_toNat x 0xff00 (k := 8) (n := 8) rfl
  rw [BitVec.toNat_setWidth, BitVec.toNat_setWidth, hlow, hhigh]
  omega

/-- Two bytes put next to each other. -/
theorem twoBytes_toNat (a b : BitVec 8) :
    a.toNat <<< 8 ||| b.toNat = a.toNat * 256 + b.toNat := by
  rw [← Nat.shiftLeft_add_eq_or_of_lt b.isLt, Nat.shiftLeft_eq]

/-- Three bytes put next to each other. -/
theorem threeBytes_toNat (a b c : BitVec 8) :
    a.toNat <<< 16 ||| b.toNat <<< 8 ||| c.toNat =
      a.toNat * 65536 + b.toNat * 256 + c.toNat := by
  have hshift : a.toNat <<< 16 = (a.toNat <<< 8) <<< 8 := by
    rw [← Nat.shiftLeft_add]
  rw [hshift, ← Nat.shiftLeft_or_distrib, twoBytes_toNat,
    ← Nat.shiftLeft_add_eq_or_of_lt c.isLt, Nat.shiftLeft_eq]
  omega

section Clamp

variable {α : Type} [LinearOrder α]

theorem clamp_le {val lo hi : α} (h : lo ≤ hi) : clamp val lo hi ≤ hi := by
  unfold clamp
  split
  · exact le_refl _
  · split
    · exact h
    · exact le_of_lt (lt_of_not_ge ‹_›)

theorem le_clamp {val lo hi : α} (h : lo ≤ hi) : lo ≤ clamp val lo hi := by
  unfold clamp
  split
  · exact h
  · split
    · exact le_refl _
    · exact le_of_lt (lt_of_not_ge ‹_›)

/-- Clamping does not raise a value above the lower bound. -/
theorem clamp_le_val {val lo hi : α} (h : lo ≤ val) : clamp val lo hi ≤ val := by
  unfold clamp
  split
  · exact ‹_›
  · split
    · exact h
    · exact le_refl _

/-- A value in the range is not moved. -/
theorem clamp_of_mem {val lo hi : α} (hlo : lo ≤ val) (hhi : val ≤ hi) :
    clamp val lo hi = val := by
  unfold clamp
  split
  · exact le_antisymm ‹_› hhi
  · split
    · exact le_antisymm hlo ‹_›
    · rfl

theorem clamp_self_range (val bound : α) : clamp val bound bound = bound :=
  le_antisymm (clamp_le (le_refl bound)) (le_clamp (le_refl bound))

/-- Clamping gives one of its three arguments. -/
theorem clamp_cases (val lo hi : α) :
    clamp val lo hi = val ∨ clamp val lo hi = lo ∨ clamp val lo hi = hi := by
  unfold clamp
  split
  · exact Or.inr (Or.inr rfl)
  · split
    · exact Or.inr (Or.inl rfl)
    · exact Or.inl rfl

end Clamp

end FixedWidth
end SurfaceCameras
