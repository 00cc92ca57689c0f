import SurfaceCameras.Kernel.Sensor
import Mathlib.Tactic.LinearCombination
import Mathlib.Tactic.Positivity

/-!
# Values in consecutive registers

A value of several bytes is stored most significant byte first.  Reading the
registers back gives the low bytes of what was written.
-/

namespace SurfaceCameras
namespace Kernel

open MaskedWrites

/-- The number in `n` registers from `a` on, most significant byte first. -/
def word (r : Registers) : ℕ → ℕ → ℕ
  | _, 0 => 0
  | a, n + 1 => (r a).toNat * 256 ^ n + word r (a + 1) n

theorem bigEndian_length (n : ℕ) (v : ℤ) : (bigEndian n v).length = n := by
  induction n generalizing v with
  | zero => rfl
  | succ n ih => rw [bigEndian, List.length_cons, ih]

theorem word_congr {r r' : Registers} {a n : ℕ}
    (h : ∀ k < n, r (a + k) = r' (a + k)) : word r a n = word r' a n := by
  induction n generalizing a with
  | zero => rfl
  | succ n ih =>
      have hfirst : r a = r' a := h 0 (Nat.succ_pos n)
      have hrest : ∀ k < n, r (a + 1 + k) = r' (a + 1 + k) := by
        intro k hk
        have hnext := h (k + 1) (Nat.succ_lt_succ hk)
        rw [Nat.add_comm k 1, ← Nat.add_assoc] at hnext
        exact hnext
      rw [word, word, hfirst, ih hrest]

theorem next_byte (v : ℤ) {k : ℤ} (hk : 0 < k) :
    v / k % 256 * k + v % k = v % (k * 256) := by
  have hdiv : v / (k * 256) = v / k / 256 :=
    (Int.ediv_ediv_of_nonneg hk.le).symm
  have hbyte := Int.mul_ediv_add_emod (v / k) 256
  have hlow := Int.mul_ediv_add_emod v k
  have hall := Int.mul_ediv_add_emod v (k * 256)
  rw [hdiv] at hall
  linear_combination k * hbyte + hlow - hall

/-- Writing a value and reading the registers gives its low bytes. -/
theorem word_bigEndian (r : Registers) (a n : ℕ) (v : ℤ) :
    (word (applyAll (bytesAt a (bigEndian n v)) r) a n : ℤ) = v % 256 ^ n := by
  induction n generalizing a r with
  | zero => simp [word]
  | succ n ih =>
      have hfirst : applyAll (bytesAt a (bigEndian (n + 1) v)) r a =
          BitVec.ofInt 8 (v / 256 ^ n) := by
        rw [← storeBytes_eq_applyAll, bigEndian, Bus.storeBytes,
          Bus.storeBytes_of_not_mem (Or.inl (Nat.lt_succ_self a))]
        exact Function.update_self _ _ _
      have hrest := ih (Function.update r a (BitVec.ofInt 8 (v / 256 ^ n)))
        (a + 1)
      rw [word, hfirst, bigEndian, bytesAt, applyAll_cons, byte_apply]
      push_cast
      rw [hrest, BitVec.toNat_ofInt, Int.toNat_of_nonneg (by omega), pow_succ]
      exact next_byte v (by positivity)

theorem word_written {r r' : Registers} {a n : ℕ} {v : ℤ}
    (h : ∀ k < n, r' (a + k) = applyAll (bytesAt a (bigEndian n v)) r (a + k)) :
    (word r' a n : ℤ) = v % 256 ^ n := by
  rw [word_congr h]
  exact word_bigEndian r a n v

end Kernel
end SurfaceCameras
