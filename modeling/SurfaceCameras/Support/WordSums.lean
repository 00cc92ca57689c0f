import SurfaceCameras.Support.Bytes
import Mathlib.Algebra.BigOperators.Intervals
import Mathlib.Algebra.BigOperators.Ring.Finset

/-!
# Sums of words

The sum of the 32-bit words from a position on is a sum over the bytes, each of
which counts with the weight of its place in its word.  So a change of a few
bytes changes the sum by what these weigh, and a value that does not begin a
word counts with its bytes rotated.
-/

namespace SurfaceCameras
namespace Bytes

open Finset

/-- The byte at `i`, and zero beyond the end. -/
def byteAt (d : Bytes) (i : ℕ) : ℕ := (d[i]?.getD 0).toNat

/-- What the bytes at `S` count in the sum of the words from `lo` on. -/
def weigh (lo : ℕ) (S : Finset ℕ) (d : Bytes) : ℕ :=
  ∑ i ∈ S, byteAt d i * 256 ^ ((i - lo) % 4)

/-- A 32-bit number whose bytes are moved up by `r`, the highest ones around to
the bottom. -/
def rotate (r u : ℕ) : ℕ := u % 256 ^ (4 - r) * 256 ^ r + u / 256 ^ (4 - r)

variable {d d' : Bytes} {lo p : ℕ} {S T : Finset ℕ}

theorem byteAt_lt (d : Bytes) (i : ℕ) : byteAt d i < 256 := BitVec.isLt _

theorem uint_succ (d : Bytes) (p n : ℕ) :
    uint d p (n + 1) = byteAt d p + 256 * uint d (p + 1) n := by
  by_cases hp : p < d.length
  · have hbyte : byteAt d p = d[p].toNat := by
      rw [byteAt, List.getElem?_eq_getElem hp]
      rfl
    rw [uint, slice, List.drop_eq_getElem_cons hp, hbyte]
    rfl
  · have hout := Nat.le_of_not_lt hp
    have hbyte : byteAt d p = 0 := by
      rw [byteAt, List.getElem?_eq_none hout]
      rfl
    rw [uint, uint, slice, slice, List.drop_eq_nil_of_le hout,
      List.drop_eq_nil_of_le (hout.trans (Nat.le_add_right p 1)), hbyte]
    simp [ofLe]

/-- The bytes of a word. -/
theorem word_eq_bytes (d : Bytes) (p : ℕ) :
    word d p = byteAt d p + 256 * (byteAt d (p + 1) +
      256 * (byteAt d (p + 2) + 256 * byteAt d (p + 3))) := by
  have hzero : uint d (p + 4) 0 = 0 := rfl
  rw [word, uint_succ, uint_succ, uint_succ, uint_succ, hzero, Nat.mul_zero]
  rfl

theorem rotate_zero {u : ℕ} (hu : u < 256 ^ 4) : rotate 0 u = u := by
  rw [rotate, Nat.sub_zero, Nat.mod_eq_of_lt hu, Nat.div_eq_of_lt hu,
    Nat.pow_zero, Nat.mul_one, Nat.add_zero]

theorem word_lt (d : Bytes) (p : ℕ) : word d p < 256 ^ 4 := by
  have h0 := byteAt_lt d p
  have h1 := byteAt_lt d (p + 1)
  have h2 := byteAt_lt d (p + 2)
  have h3 := byteAt_lt d (p + 3)
  rw [word_eq_bytes]
  omega

/-- What the four bytes of a value weigh. -/
theorem weigh_word (d : Bytes) (hp : lo ≤ p) :
    weigh lo (Ico p (p + 4)) d = rotate ((p - lo) % 4) (word d p) := by
  have h0 := byteAt_lt d p
  have h1 := byteAt_lt d (p + 1)
  have h2 := byteAt_lt d (p + 2)
  have h3 := byteAt_lt d (p + 3)
  have hplace : ∀ k, (p + k - lo) % 4 = ((p - lo) % 4 + k) % 4 := by omega
  have hr : (p - lo) % 4 < 4 := Nat.mod_lt _ (by decide)
  rw [weigh, sum_Ico_eq_sum_range, Nat.add_sub_cancel_left, word_eq_bytes]
  simp only [hplace, sum_range_succ, sum_range_zero, rotate]
  generalize (p - lo) % 4 = r at hr
  obtain rfl | rfl | rfl | rfl : r = 0 ∨ r = 1 ∨ r = 2 ∨ r = 3 := by omega
  · simp
    omega
  · simp
    omega
  · simp
    omega
  · simp
    omega

/-- What values that stand one after the other weigh. -/
theorem weigh_words (d : Bytes) (hp : lo ≤ p) (n : ℕ) :
    weigh lo (Ico p (p + 4 * n)) d =
      ∑ j ∈ range n, rotate ((p - lo) % 4) (word d (p + 4 * j)) := by
  induction n with
  | zero => simp [weigh]
  | succ n ih =>
      have hplace : (p + 4 * n - lo) % 4 = (p - lo) % 4 := by omega
      have hlast := weigh_word d (hp.trans (Nat.le_add_right p (4 * n)))
      rw [hplace] at hlast
      rw [sum_range_succ, ← ih, ← hlast, weigh, weigh, weigh,
        sum_Ico_consecutive _ (by omega) (by omega)]
      congr 1

/-- The sum of words is what their bytes weigh. -/
theorem sum_words (d : Bytes) (lo n : ℕ) :
    ∑ j ∈ range n, word d (lo + 4 * j) = weigh lo (Ico lo (lo + 4 * n)) d := by
  rw [weigh_words d le_rfl, Nat.sub_self]
  exact sum_congr rfl fun j _ => (rotate_zero (word_lt d _)).symm

/-- Where two strings have the same bytes, they weigh the same. -/
theorem weigh_congr (h : AgreeOn {i | i ∈ S} d d') :
    weigh lo S d = weigh lo S d' := by
  apply sum_congr rfl
  intro i hi
  rw [byteAt, byteAt, h.get i hi]

/-- Two strings differ by what they weigh where they are not the same. -/
theorem weigh_change (hT : T ⊆ S) (h : AgreeOn {i | i ∈ S ∧ i ∉ T} d d') :
    (weigh lo S d' : ℤ) - weigh lo S d = weigh lo T d' - weigh lo T d := by
  have hsplit : ∀ e : Bytes,
      weigh lo S e = weigh lo (S \ T) e + weigh lo T e :=
    fun e => (sum_sdiff hT).symm
  have hrest : weigh lo (S \ T) d = weigh lo (S \ T) d' :=
    weigh_congr (h.mono fun i hi => mem_sdiff.mp hi)
  rw [hsplit d, hsplit d', hrest]
  omega

end Bytes
end SurfaceCameras
