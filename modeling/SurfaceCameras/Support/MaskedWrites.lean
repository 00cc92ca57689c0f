import Mathlib.Logic.Function.Basic
import Mathlib.Tactic.Common
import Mathlib.Data.Nat.Notation

/-!
# Masked writes to a register file

A register file maps addresses to bytes.  A masked write replaces the bits of
one byte that its mask selects.  A sequence of masked writes determines the
bits its masks cover and leaves the others, whatever the registers held before;
so two register files can be compared bit by bit before and after the same
writes.
-/

namespace SurfaceCameras
namespace MaskedWrites

/-- The contents of the registers. -/
abbrev Registers := ℕ → BitVec 8

/-- Replace the bits of the byte at `addr` selected by `mask` with those of
`value`. -/
structure MaskedWrite where
  addr : ℕ
  mask : BitVec 8
  value : BitVec 8
  deriving DecidableEq, Repr

/-- Replace a whole byte. -/
def MaskedWrite.byte (addr : ℕ) (value : BitVec 8) : MaskedWrite :=
  ⟨addr, 0xff, value⟩

/-- Whole bytes at consecutive addresses. -/
def bytesAt : ℕ → List (BitVec 8) → List MaskedWrite
  | _, [] => []
  | a, v :: vs => .byte a v :: bytesAt (a + 1) vs

def MaskedWrite.apply (w : MaskedWrite) (r : Registers) : Registers :=
  Function.update r w.addr ((r w.addr &&& ~~~w.mask) ||| (w.value &&& w.mask))

/-- The registers after a sequence of writes. -/
def applyAll (ws : List MaskedWrite) (r : Registers) : Registers :=
  ws.foldl (fun r w => w.apply r) r

/-- The cells a sequence of writes touches: addresses and masks. -/
def footprint (ws : List MaskedWrite) : List (ℕ × BitVec 8) :=
  ws.map fun w => (w.addr, w.mask)

/-- The bits of each register that lie in a footprint. -/
def bitsOf : List (ℕ × BitVec 8) → ℕ → BitVec 8
  | [], _ => 0
  | x :: xs, a => (if a = x.1 then x.2 else 0) ||| bitsOf xs a

/-- The footprint has no bit in common with `k`. -/
def Outside (k : ℕ → BitVec 8) (fp : List (ℕ × BitVec 8)) : Prop :=
  ∀ x ∈ fp, x.2 &&& k x.1 = 0

/-- Every bit of `k` is one of `k'`. -/
def Within (k k' : ℕ → BitVec 8) : Prop := ∀ a, k' a &&& k a = k a

@[simp] theorem applyAll_nil (r : Registers) : applyAll [] r = r := rfl

@[simp] theorem applyAll_cons (w : MaskedWrite) (ws : List MaskedWrite)
    (r : Registers) : applyAll (w :: ws) r = applyAll ws (w.apply r) := rfl

@[simp] theorem applyAll_append (ws vs : List MaskedWrite) (r : Registers) :
    applyAll (ws ++ vs) r = applyAll vs (applyAll ws r) := by
  simp [applyAll]

@[simp] theorem footprint_nil : footprint [] = [] := rfl

@[simp] theorem footprint_cons (w : MaskedWrite) (ws : List MaskedWrite) :
    footprint (w :: ws) = (w.addr, w.mask) :: footprint ws := rfl

@[simp] theorem footprint_append (ws vs : List MaskedWrite) :
    footprint (ws ++ vs) = footprint ws ++ footprint vs :=
  List.map_append

theorem bitsOf_cons (x : ℕ × BitVec 8) (xs : List (ℕ × BitVec 8)) (a : ℕ) :
    bitsOf (x :: xs) a = (if a = x.1 then x.2 else 0) ||| bitsOf xs a :=
  rfl

@[simp] theorem bitsOf_append (xs ys : List (ℕ × BitVec 8)) (a : ℕ) :
    bitsOf (xs ++ ys) a = bitsOf xs a ||| bitsOf ys a := by
  induction xs with
  | nil => simp [bitsOf]
  | cons x xs ih => simp [bitsOf_cons, ih, BitVec.or_assoc]

theorem Outside.append {k : ℕ → BitVec 8} {xs ys : List (ℕ × BitVec 8)}
    (hx : Outside k xs) (hy : Outside k ys) : Outside k (xs ++ ys) := by
  intro x hmem
  rcases List.mem_append.mp hmem with h | h
  · exact hx x h
  · exact hy x h

theorem Outside.within {j k : ℕ → BitVec 8} {xs : List (ℕ × BitVec 8)}
    (h : Outside k xs) (hj : Within j k) : Outside j xs := by
  intro x hx
  rw [← hj x.1, ← BitVec.and_assoc, h x hx]
  exact BitVec.zero_and

namespace Within

variable {k k' k'' : ℕ → BitVec 8}

theorem refl (k : ℕ → BitVec 8) : Within k k := fun _ => BitVec.and_self

theorem left (h : Within k k') (j : ℕ → BitVec 8) :
    Within k (fun a => k' a ||| j a) := by
  intro a
  rw [← h a]
  apply BitVec.eq_of_getLsbD_eq
  intro i hi
  simp only [BitVec.getLsbD_and, BitVec.getLsbD_or]
  cases (k' a).getLsbD i <;> simp

theorem right (h : Within k k') (j : ℕ → BitVec 8) :
    Within k (fun a => j a ||| k' a) := by
  intro a
  change (j a ||| k' a) &&& k a = k a
  rw [BitVec.or_comm]
  exact h.left j a

theorem or (h : Within k k'') (h' : Within k' k'') :
    Within (fun a => k a ||| k' a) k'' := by
  intro a
  have h1 := h a
  have h2 := h' a
  dsimp only
  rw [BitVec.and_or_distrib_left, h1, h2]

end Within

theorem apply_of_ne {w : MaskedWrite} {a : ℕ} (h : a ≠ w.addr)
    (r : Registers) : w.apply r a = r a :=
  Function.update_of_ne h _ _

theorem apply_self (w : MaskedWrite) (r : Registers) :
    w.apply r w.addr = (r w.addr &&& ~~~w.mask) ||| (w.value &&& w.mask) :=
  Function.update_self _ _ _

@[simp] theorem byte_apply (a : ℕ) (v : BitVec 8) (r : Registers) :
    (MaskedWrite.byte a v).apply r = Function.update r a v := by
  have hbyte : (r a &&& ~~~0xff#8) ||| (v &&& 0xff#8) = v := by
    have hone : (0xff#8 : BitVec 8) = BitVec.allOnes 8 := rfl
    rw [hone, BitVec.and_allOnes, BitVec.not_allOnes, BitVec.and_zero,
      BitVec.zero_or]
  exact congrArg (Function.update r a) hbyte

/-! ## One register -/

/-- What a masked write makes of the byte it is applied to. -/
def MaskedWrite.onto (w : MaskedWrite) (x : BitVec 8) : BitVec 8 :=
  (x &&& ~~~w.mask) ||| (w.value &&& w.mask)

/-- The writes to one register. -/
def writesTo (a : ℕ) (ws : List MaskedWrite) : List MaskedWrite :=
  ws.filter fun w => w.addr = a

@[simp] theorem writesTo_append (a : ℕ) (ws vs : List MaskedWrite) :
    writesTo a (ws ++ vs) = writesTo a ws ++ writesTo a vs :=
  List.filter_append ws vs

theorem writesTo_prefix (a : ℕ) {ws vs : List MaskedWrite} (h : vs <+: ws) :
    writesTo a vs <+: writesTo a ws :=
  h.filter _

/-- A register holds what the writes to it make of what it held. -/
theorem applyAll_at (ws : List MaskedWrite) (r : Registers) (a : ℕ) :
    applyAll ws r a = (writesTo a ws).foldl (fun x w => w.onto x) (r a) := by
  induction ws generalizing r with
  | nil => rfl
  | cons w ws ih =>
      rw [applyAll_cons, ih]
      by_cases ha : w.addr = a
      · subst ha
        simp [writesTo, apply_self, MaskedWrite.onto]
      · have hne : a ≠ w.addr := fun h => ha h.symm
        simp [writesTo, apply_of_ne hne, ha]

/-- A whole byte replaces what the register held. -/
@[simp] theorem byte_onto (a : ℕ) (v x : BitVec 8) :
    (MaskedWrite.byte a v).onto x = v := by
  have hbyte := congrFun (byte_apply a v fun _ => x) a
  rw [Function.update_self] at hbyte
  exact (apply_self (.byte a v) fun _ => x).symm.trans hbyte

/-- A register that is written once, whole. -/
theorem applyAll_byte {ws : List MaskedWrite} {a : ℕ} {v : BitVec 8}
    (h : writesTo a ws = [.byte a v]) (r : Registers) :
    applyAll ws r a = v := by
  rw [applyAll_at, h, List.foldl_cons, List.foldl_nil, byte_onto]

/-- A register that is not written keeps what it held. -/
theorem applyAll_of_notMem {ws : List MaskedWrite} {a : ℕ}
    (h : a ∉ (footprint ws).map Prod.fst) (r : Registers) :
    applyAll ws r a = r a := by
  have hnone : writesTo a ws = [] := by
    apply List.filter_eq_nil_iff.mpr
    intro w hw ha
    have hmem : (w.addr, w.mask) ∈ footprint ws := List.mem_map_of_mem hw
    rw [← of_decide_eq_true ha] at h
    exact h (List.mem_map_of_mem hmem)
  rw [applyAll_at, hnone]
  rfl

/-- Where a register gets the same writes, it holds the same. -/
theorem applyAll_at_congr {ws vs : List MaskedWrite} {a : ℕ}
    (h : writesTo a ws = writesTo a vs) (r : Registers) :
    applyAll ws r a = applyAll vs r a := by
  rw [applyAll_at, applyAll_at, h]

/-- Other registers do not matter to a register. -/
theorem applyAll_congr (ws : List MaskedWrite) {r r' : Registers} {a : ℕ}
    (h : r a = r' a) : applyAll ws r a = applyAll ws r' a := by
  rw [applyAll_at, applyAll_at, h]

/-! ## Flags -/

/-- A byte whose bits in `m` are set if `b` holds and cleared if not. -/
def flagged (m : BitVec 8) (b : Prop) [Decidable b] (x : BitVec 8) : BitVec 8 :=
  if b then x ||| m else x &&& ~~~m

theorem flagged_and (m : BitVec 8) (b : Prop) [Decidable b] (x : BitVec 8) :
    flagged m b x &&& m = if b then m else 0 := by
  apply BitVec.eq_of_getLsbD_eq
  intro i hi
  unfold flagged
  by_cases hb : b
  · rw [if_pos hb, if_pos hb, BitVec.getLsbD_and, BitVec.getLsbD_or]
    cases m.getLsbD i <;> simp
  · rw [if_neg hb, if_neg hb]
    simp only [BitVec.getLsbD_and, BitVec.getLsbD_not, hi, decide_true,
      Bool.true_and]
    cases m.getLsbD i <;> simp

/-- The other bits are kept. -/
theorem flagged_and_not (m : BitVec 8) (b : Prop) [Decidable b]
    (x : BitVec 8) : flagged m b x &&& ~~~m = x &&& ~~~m := by
  apply BitVec.eq_of_getLsbD_eq
  intro i hi
  unfold flagged
  by_cases hb : b
  · rw [if_pos hb, BitVec.getLsbD_and, BitVec.getLsbD_and, BitVec.getLsbD_or,
      BitVec.getLsbD_not]
    cases m.getLsbD i <;> simp
  · rw [if_neg hb, BitVec.and_assoc, BitVec.and_self]

/-- A byte is made of its bits in a mask and the others. -/
theorem eq_of_masked {m x y : BitVec 8} (h : x &&& m = y &&& m)
    (h' : x &&& ~~~m = y &&& ~~~m) : x = y := by
  have hsplit : ∀ z : BitVec 8, (z &&& m) ||| (z &&& ~~~m) = z := by
    intro z
    rw [← BitVec.and_or_distrib_left, BitVec.or_not_self, BitVec.and_allOnes]
  rw [← hsplit x, h, h', hsplit y]

/-! ## Comparing two register files -/

/-- The two register files have the same bits where `k` has ones. -/
def AgreeOn (k : ℕ → BitVec 8) (r r' : Registers) : Prop :=
  ∀ a, r a &&& k a = r' a &&& k a

namespace AgreeOn

variable {k k' : ℕ → BitVec 8} {r r' r'' : Registers}

theorem refl (k : ℕ → BitVec 8) (r : Registers) : AgreeOn k r r :=
  fun _ => rfl

theorem symm (h : AgreeOn k r r') : AgreeOn k r' r := fun a => (h a).symm

theorem trans (h : AgreeOn k r r') (h' : AgreeOn k r' r'') :
    AgreeOn k r r'' :=
  fun a => (h a).trans (h' a)

/-- Fewer bits are compared. -/
theorem mono (h : AgreeOn k r r') (hk : Within k' k) : AgreeOn k' r r' := by
  intro a
  rw [← hk a, ← BitVec.and_assoc, ← BitVec.and_assoc, h a]

/-- Where every bit is compared, the registers are equal. -/
theorem eq_of_allOnes (h : AgreeOn k r r') {a : ℕ} (ha : k a = 0xff) :
    r a = r' a := by
  have hone : (0xff : BitVec 8) = BitVec.allOnes 8 := rfl
  have := h a
  rwa [ha, hone, BitVec.and_allOnes, BitVec.and_allOnes] at this

end AgreeOn

theorem masked_congr {x y m k v : BitVec 8} (h : x &&& k = y &&& k) :
    ((x &&& ~~~m) ||| (v &&& m)) &&& (m ||| k) =
      ((y &&& ~~~m) ||| (v &&& m)) &&& (m ||| k) := by
  apply BitVec.eq_of_getLsbD_eq
  intro i hi
  have hbit := congrArg (fun b : BitVec 8 => b.getLsbD i) h
  simp only [BitVec.getLsbD_and] at hbit
  simp only [BitVec.getLsbD_and, BitVec.getLsbD_or, BitVec.getLsbD_not, hi,
    decide_true, Bool.true_and]
  cases hm : m.getLsbD i
  · simpa [hm] using hbit
  · simp

theorem masked_outside {x m k v : BitVec 8} (h : m &&& k = 0) :
    ((x &&& ~~~m) ||| (v &&& m)) &&& k = x &&& k := by
  apply BitVec.eq_of_getLsbD_eq
  intro i hi
  have hbit := congrArg (fun b : BitVec 8 => b.getLsbD i) h
  simp only [BitVec.getLsbD_and] at hbit
  simp only [BitVec.getLsbD_and, BitVec.getLsbD_or, BitVec.getLsbD_not, hi,
    decide_true, Bool.true_and]
  cases hm : m.getLsbD i
  · simp
  · have hk : k.getLsbD i = false := by simpa [hm] using hbit
    simp [hk]

/-- The same write on both sides makes the bits it covers agree. -/
theorem AgreeOn.apply {k : ℕ → BitVec 8} {r r' : Registers}
    (h : AgreeOn k r r') (w : MaskedWrite) :
    AgreeOn (fun a => (if a = w.addr then w.mask else 0) ||| k a)
      (w.apply r) (w.apply r') := by
  intro a
  by_cases ha : a = w.addr
  · subst ha
    dsimp only
    rw [apply_self, apply_self, if_pos rfl]
    exact masked_congr (h w.addr)
  · dsimp only
    rw [apply_of_ne ha, apply_of_ne ha, if_neg ha]
    simpa using h a

/-- The same writes on both sides make the bits they touch agree. -/
theorem AgreeOn.applyAll {k : ℕ → BitVec 8} {r r' : Registers}
    (h : AgreeOn k r r') (ws : List MaskedWrite) :
    AgreeOn (fun a => bitsOf (footprint ws) a ||| k a) (applyAll ws r)
      (applyAll ws r') := by
  induction ws generalizing k r r' with
  | nil => simpa [bitsOf] using h
  | cons w ws ih =>
      refine (ih (h.apply w)).mono fun a => ?_
      simp only [footprint_cons, bitsOf_cons]
      rw [← BitVec.or_assoc, BitVec.or_comm (bitsOf (footprint ws) a),
        BitVec.and_self]

/-- Writes outside the compared bits change none of them. -/
theorem agreeOn_applyAll_self {k : ℕ → BitVec 8} {ws : List MaskedWrite}
    (h : Outside k (footprint ws)) (r : Registers) :
    AgreeOn k (applyAll ws r) r := by
  induction ws generalizing r with
  | nil => exact AgreeOn.refl k r
  | cons w ws ih =>
      have hw : w.mask &&& k w.addr = 0 := h (w.addr, w.mask) (by simp)
      have hrest := ih (fun x hx => h x (List.mem_cons_of_mem _ hx)) (w.apply r)
      refine hrest.trans fun a => ?_
      by_cases ha : a = w.addr
      · subst ha
        rw [apply_self]
        exact masked_outside hw
      · rw [apply_of_ne ha]

/-! ## Register files that agree on some bits of `j` -/

section

variable {j k : ℕ → BitVec 8} {r r' : Registers}

/-- The same writes on both sides add their bits. -/
theorem AgreeOn.both (h : AgreeOn (fun a => j a &&& k a) r r')
    (ws : List MaskedWrite) :
    AgreeOn (fun a => j a &&& (bitsOf (footprint ws) a ||| k a))
      (MaskedWrites.applyAll ws r) (MaskedWrites.applyAll ws r') := by
  refine (h.applyAll ws).mono fun a => ?_
  apply BitVec.eq_of_getLsbD_eq
  intro i hi
  simp only [BitVec.getLsbD_and, BitVec.getLsbD_or]
  cases (j a).getLsbD i <;> simp

/-- Writes outside `j`, different on the two sides, do not matter. -/
theorem AgreeOn.sides (h : AgreeOn (fun a => j a &&& k a) r r')
    {ws vs : List MaskedWrite} (hws : Outside j (footprint ws))
    (hvs : Outside j (footprint vs)) :
    AgreeOn (fun a => j a &&& k a) (MaskedWrites.applyAll ws r)
      (MaskedWrites.applyAll vs r') := by
  have hj : Within (fun a => j a &&& k a) j := by
    intro a
    rw [← BitVec.and_assoc, BitVec.and_self]
  exact ((agreeOn_applyAll_self (hws.within hj) r).trans h).trans
    (agreeOn_applyAll_self (hvs.within hj) r').symm

/-- Once every bit of `j` has been written, the register files agree on
`j`. -/
theorem AgreeOn.all (h : AgreeOn (fun a => j a &&& k a) r r')
    (hk : Within j k) : AgreeOn j r r' := by
  refine h.mono fun a => ?_
  rw [BitVec.and_assoc, hk a, BitVec.and_self]

end

end MaskedWrites
end SurfaceCameras
