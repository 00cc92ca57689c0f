import Mathlib.Data.BitVec
import Mathlib.Data.List.Basic
import Mathlib.Data.Set.Basic
import Mathlib.Tactic.Ring

/-!
# Byte strings

Slices of a byte string, little-endian numbers in it, and overwriting a part
of it.  Two strings are compared byte by byte on a range of positions; what
reads only inside the range does not tell them apart.
-/

namespace SurfaceCameras

abbrev Bytes : Type := List (BitVec 8)

namespace Bytes

/-- The bytes from position `p` on, at most `n` of them. -/
def slice (d : Bytes) (p n : ℕ) : Bytes := (d.drop p).take n

/-- The number that little-endian bytes stand for. -/
def ofLe : Bytes → ℕ
  | [] => 0
  | b :: bs => b.toNat + 256 * ofLe bs

/-- The low `n` bytes of a number, the lowest first. -/
def toLe : ℕ → ℕ → Bytes
  | 0, _ => []
  | n + 1, v => BitVec.ofNat 8 v :: toLe n (v / 256)

/-- The little-endian number of `n` bytes at position `p`. -/
def uint (d : Bytes) (p n : ℕ) : ℕ := ofLe (slice d p n)

/-- The 32-bit word at position `p`. -/
abbrev word (d : Bytes) (p : ℕ) : ℕ := uint d p 4

/-- The string with `bs` from position `p` on. -/
def write (d : Bytes) (p : ℕ) (bs : Bytes) : Bytes :=
  d.take p ++ bs ++ d.drop (p + bs.length)

/-! ## Numbers -/

@[simp] theorem length_toLe (n v : ℕ) : (toLe n v).length = n := by
  induction n generalizing v with
  | zero => rfl
  | succ n ih => simp [toLe, ih]

theorem ofLe_toLe (n v : ℕ) : ofLe (toLe n v) = v % 256 ^ n := by
  induction n generalizing v with
  | zero => simp [toLe, ofLe, Nat.mod_one]
  | succ n ih =>
      have hsplit : v % 256 ^ (n + 1) = v % 256 + 256 * (v / 256 % 256 ^ n) := by
        rw [pow_succ, Nat.mul_comm (256 ^ n), Nat.mod_mul]
      simp [toLe, ofLe, ih, hsplit]

theorem ofLe_toLe_of_lt {n v : ℕ} (hv : v < 256 ^ n) : ofLe (toLe n v) = v := by
  rw [ofLe_toLe, Nat.mod_eq_of_lt hv]

/-! ## Slices -/

theorem length_slice (d : Bytes) (p n : ℕ) :
    (slice d p n).length = min n (d.length - p) := by
  simp [slice]

theorem slice_add (d : Bytes) (p m n : ℕ) :
    slice d p (m + n) = slice d p m ++ slice d (p + m) n := by
  simp [slice, List.take_add, List.drop_drop]

/-- The bytes `bs` stand at position `p`. -/
def At (d : Bytes) (p : ℕ) (bs : Bytes) : Prop := slice d p bs.length = bs

theorem at_append_iff {d : Bytes} {p : ℕ} {bs cs : Bytes} :
    At d p (bs ++ cs) ↔ At d p bs ∧ At d (p + bs.length) cs := by
  rw [At, List.length_append, slice_add]
  constructor
  · intro h
    have hlen : (slice d p bs.length).length = bs.length := by
      have htotal := congrArg List.length h
      simp only [List.length_append, length_slice] at htotal ⊢
      omega
    exact List.append_inj h hlen
  · rintro ⟨h, h'⟩
    rw [show slice d p bs.length = bs from h,
      show slice d (p + bs.length) cs.length = cs from h']

theorem at_self (pre bs post : Bytes) : At (pre ++ (bs ++ post)) pre.length bs := by
  simp [At, slice]

/-- What stands somewhere ends inside the string. -/
theorem At.end_le {d : Bytes} {p : ℕ} {bs : Bytes} (h : At d p bs)
    (hpos : 0 < bs.length) : p + bs.length ≤ d.length := by
  have hlen := congrArg List.length h
  rw [length_slice] at hlen
  omega

theorem At.uint {d : Bytes} {p n v : ℕ} (h : At d p (toLe n v))
    (hv : v < 256 ^ n) : uint d p n = v := by
  rw [At, length_toLe] at h
  rw [Bytes.uint, h, ofLe_toLe_of_lt hv]

theorem getElem?_slice (d : Bytes) (p n i : ℕ) :
    (slice d p n)[i]? = if i < n then d[p + i]? else none := by
  simp [slice, List.getElem?_take]

/-- A span that ends before the end of a file is there in a longer one. -/
theorem slice_append {d : Bytes} (t : Bytes) {p n : ℕ} (h : p + n ≤ d.length) :
    slice (d ++ t) p n = slice d p n := by
  rw [slice, List.drop_append_of_le_length (by omega),
    List.take_append_of_le_length (by rw [List.length_drop]; omega), slice]

theorem uint_append {d : Bytes} (t : Bytes) {p n : ℕ} (h : p + n ≤ d.length) :
    uint (d ++ t) p n = uint d p n :=
  congrArg ofLe (slice_append t h)

/-- A slice of a slice that holds it. -/
theorem slice_slice (d : Bytes) (p : ℕ) {q m n : ℕ} (h : q + m ≤ n) :
    slice (slice d p n) q m = slice d (p + q) m := by
  refine List.ext_getElem? fun i => ?_
  rw [getElem?_slice, getElem?_slice, getElem?_slice]
  by_cases hi : i < m
  · rw [if_pos hi, if_pos hi, if_pos (by omega), Nat.add_assoc]
  · rw [if_neg hi, if_neg hi]

/-- A number read from a slice that holds it. -/
theorem uint_slice (d : Bytes) (p : ℕ) {q m n : ℕ} (h : q + m ≤ n) :
    uint (slice d p n) q m = uint d (p + q) m :=
  congrArg ofLe (slice_slice d p h)

/-- A part of bytes that stand somewhere. -/
theorem At.slice_inside {d bs : Bytes} {p q n : ℕ} (h : At d p bs)
    (hq : q + n ≤ bs.length) : slice d (p + q) n = slice bs q n := by
  rw [← slice_slice d p hq, show slice d p bs.length = bs from h]

theorem At.uint_inside {d bs : Bytes} {p q n : ℕ} (h : At d p bs)
    (hq : q + n ≤ bs.length) : Bytes.uint d (p + q) n = Bytes.uint bs q n :=
  congrArg ofLe (h.slice_inside hq)

/-- Bytes that stand somewhere again and again. -/
theorem At.replicate {d bs : Bytes} {p n i : ℕ}
    (h : At d p (List.replicate n bs).flatten) (hi : i < n) :
    At d (p + bs.length * i) bs := by
  induction n generalizing p i with
  | zero => exact absurd hi (Nat.not_lt_zero i)
  | succ n ih =>
      rw [List.replicate_succ, List.flatten_cons, at_append_iff] at h
      cases i with
      | zero => exact h.1
      | succ i =>
          rw [Nat.mul_succ, Nat.add_comm _ bs.length, ← Nat.add_assoc]
          exact ih h.2 (Nat.lt_of_succ_lt_succ hi)

theorem length_flatten_replicate (n : ℕ) (bs : Bytes) :
    (List.replicate n bs).flatten.length = n * bs.length := by
  rw [List.length_flatten, List.map_replicate, List.sum_replicate_nat]

/-! ## Writing -/

section Writing

variable {d : Bytes} {p : ℕ} {bs : Bytes}

theorem length_write (h : p + bs.length ≤ d.length) :
    (write d p bs).length = d.length := by
  simp only [write, List.length_append, List.length_take, List.length_drop]
  omega

theorem getElem?_write (h : p + bs.length ≤ d.length) (i : ℕ) :
    (write d p bs)[i]? =
      if p ≤ i ∧ i < p + bs.length then bs[i - p]? else d[i]? := by
  have hp : p ≤ d.length := by omega
  simp only [write, List.append_assoc, List.getElem?_append, List.length_take,
    Nat.min_eq_left hp, List.getElem?_take, List.getElem?_drop]
  by_cases h1 : i < p
  · simp only [h1, if_true, if_neg (show ¬ (p ≤ i ∧ i < p + bs.length) by omega)]
  · by_cases h2 : i - p < bs.length
    · simp only [h1, h2, if_false, if_true,
        if_pos (show p ≤ i ∧ i < p + bs.length by omega)]
    · simp only [h1, h2, if_false,
        if_neg (show ¬ (p ≤ i ∧ i < p + bs.length) by omega)]
      congr 1
      omega

end Writing

/-! ## Agreement -/

/-- Strings of one length with the same bytes at the positions in `S`. -/
structure AgreeOn (S : Set ℕ) (d d' : Bytes) : Prop where
  length : d.length = d'.length
  get : ∀ i ∈ S, d[i]? = d'[i]?

namespace AgreeOn

variable {S T : Set ℕ} {d d' d'' : Bytes}

theorem refl (S : Set ℕ) (d : Bytes) : AgreeOn S d d := ⟨rfl, fun _ _ => rfl⟩

theorem trans (h : AgreeOn S d d') (h' : AgreeOn S d' d'') : AgreeOn S d d'' :=
  ⟨h.length.trans h'.length, fun i hi => (h.get i hi).trans (h'.get i hi)⟩

theorem symm (h : AgreeOn S d d') : AgreeOn S d' d :=
  ⟨h.length.symm, fun i hi => (h.get i hi).symm⟩

theorem mono (h : AgreeOn S d d') (hT : ∀ i ∈ T, i ∈ S) : AgreeOn T d d' :=
  ⟨h.length, fun i hi => h.get i (hT i hi)⟩

/-- A slice inside the positions is the same. -/
theorem slice_eq (h : AgreeOn S d d') {p n : ℕ}
    (hS : ∀ i, p ≤ i → i < p + n → i ∈ S) : slice d p n = slice d' p n := by
  apply List.ext_getElem?
  intro i
  rw [getElem?_slice, getElem?_slice]
  split
  · exact h.get _ (hS _ (by omega) (by omega))
  · rfl

/-- So is a number inside them. -/
theorem uint_eq (h : AgreeOn S d d') {p n : ℕ}
    (hS : ∀ i, p ≤ i → i < p + n → i ∈ S) : uint d p n = uint d' p n :=
  congrArg ofLe (h.slice_eq hS)

/-- Writing elsewhere is not seen. -/
theorem write {p : ℕ} {bs : Bytes} (h : AgreeOn S d d')
    (hin : p + bs.length ≤ d'.length)
    (hS : ∀ i ∈ S, ¬ (p ≤ i ∧ i < p + bs.length)) :
    AgreeOn S d (Bytes.write d' p bs) := by
  refine ⟨h.length.trans (length_write hin).symm, fun i hi => ?_⟩
  rw [getElem?_write hin, if_neg (hS i hi)]
  exact h.get i hi

/-- Writing the same bytes in both strings. -/
theorem write_both {p : ℕ} {bs : Bytes} (h : AgreeOn S d d')
    (hin : p + bs.length ≤ d.length) :
    AgreeOn S (Bytes.write d p bs) (Bytes.write d' p bs) := by
  have hin' : p + bs.length ≤ d'.length := h.length ▸ hin
  refine ⟨?_, fun i hi => ?_⟩
  · rw [length_write hin, length_write hin', h.length]
  · rw [getElem?_write hin, getElem?_write hin', h.get i hi]

end AgreeOn

/-- What was written is read back. -/
theorem slice_write {d : Bytes} {p : ℕ} {bs : Bytes}
    (h : p + bs.length ≤ d.length) : slice (write d p bs) p bs.length = bs := by
  apply List.ext_getElem?
  intro i
  rw [getElem?_slice]
  by_cases hi : i < bs.length
  · rw [if_pos hi, getElem?_write h, if_pos (by omega), Nat.add_sub_cancel_left]
  · rw [if_neg hi, List.getElem?_eq_none (by omega)]

end Bytes
end SurfaceCameras
