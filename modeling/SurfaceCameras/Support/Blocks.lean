import Mathlib.Data.Nat.Notation
import Mathlib.Tactic.Common

/-!
# Blocks of equal length

The consecutive blocks of length `k` of a list.  What is left over at the end
belongs to no block, so lengthening the list leaves its blocks as they are.
-/

namespace SurfaceCameras
namespace Blocks

variable {α : Type}

/-- The block that starts `i` blocks into the list. -/
def blockAt (k : ℕ) (bs : List α) (i : ℕ) : List α := (bs.drop (k * i)).take k

/-- The first `n` blocks. -/
def firstBlocks (k n : ℕ) (bs : List α) : List (List α) :=
  (List.range n).map (blockAt k bs)

/-- All whole blocks. -/
def blocks (k : ℕ) (bs : List α) : List (List α) :=
  firstBlocks k (bs.length / k) bs

@[simp] theorem firstBlocks_zero (k : ℕ) (bs : List α) :
    firstBlocks k 0 bs = [] := rfl

theorem firstBlocks_succ (k n : ℕ) (bs : List α) :
    firstBlocks k (n + 1) bs = firstBlocks k n bs ++ [blockAt k bs n] := by
  simp [firstBlocks, List.range_succ]

/-- A block that lies in a list is not changed by what comes after it. -/
theorem blockAt_append {k i : ℕ} {as : List α} (h : k * (i + 1) ≤ as.length)
    (bs : List α) : blockAt k (as ++ bs) i = blockAt k as i := by
  have hi : k * (i + 1) = k * i + k := Nat.mul_succ k i
  have hstart : k * i ≤ as.length := by omega
  have hlen : k ≤ (as.drop (k * i)).length := by
    rw [List.length_drop]
    omega
  rw [blockAt, blockAt, List.drop_append_of_le_length hstart,
    List.take_append_of_le_length hlen]

theorem firstBlocks_append {k n : ℕ} {as : List α} (h : k * n ≤ as.length)
    (bs : List α) : firstBlocks k n (as ++ bs) = firstBlocks k n as := by
  apply List.map_congr_left
  intro i hi
  have hin : i + 1 ≤ n := List.mem_range.mp hi
  exact blockAt_append (Nat.le_trans (Nat.mul_le_mul_left k hin) h) bs

/-- With less than a block left over, all blocks have been taken. -/
theorem firstBlocks_eq_blocks {k n : ℕ} {bs : List α} (hn : k * n ≤ bs.length)
    (hrest : (bs.drop (k * n)).length < k) :
    firstBlocks k n bs = blocks k bs := by
  have hlen : bs.length < k * n + k := by
    rw [List.length_drop] at hrest
    omega
  have hdiv : bs.length / k = n := by
    apply Nat.div_eq_of_lt_le
    · rwa [Nat.mul_comm]
    · rwa [Nat.mul_comm, Nat.mul_succ]
  rw [blocks, hdiv]

end Blocks
end SurfaceCameras
