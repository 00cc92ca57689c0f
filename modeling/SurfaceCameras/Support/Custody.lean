import Mathlib.Data.List.Perm.Basic
import Mathlib.Data.List.Nodup
import Mathlib.Data.List.Range
import Mathlib.Data.Nat.Notation

/-!
# Custody of numbered tokens

Tokens are issued one after the other, numbered from zero.  Each is in
somebody's hands until it is released.  A stray release is one made by a party
that does not hold the token; whoever holds it will release it once more.

`Balanced` is the law that issuing, handing over and releasing keep: the tokens
held and the tokens released are together the tokens issued and the stray
ones.  From it follows when every token was released exactly once.
-/

namespace SurfaceCameras
namespace Custody

/-- The tokens held and released are the ones issued and the stray ones. -/
structure Balanced (held released stray : List ℕ) (issued : ℕ) : Prop where
  account : (held ++ released).Perm (List.range issued ++ stray)
  known : ∀ t ∈ stray, t < issued

namespace Balanced

variable {held held' released stray : List ℕ} {issued t : ℕ}

theorem start : Balanced [] [] [] 0 := ⟨List.Perm.refl _, by simp⟩

/-- Tokens only change hands. -/
theorem rearrange (h : Balanced held released stray issued)
    (hperm : held.Perm held') : Balanced held' released stray issued :=
  ⟨(hperm.symm.append_right released).trans h.account, h.known⟩

/-- A token in somebody's hands was issued. -/
theorem issued_of_mem (h : Balanced held released stray issued)
    (ht : t ∈ held) : t < issued := by
  have hmem : t ∈ List.range issued ++ stray :=
    h.account.subset (List.mem_append_left released ht)
  rcases List.mem_append.mp hmem with hrange | hstray
  · exact List.mem_range.mp hrange
  · exact h.known t hstray

/-- The next token is issued. -/
theorem acquire (h : Balanced held released stray issued) :
    Balanced (issued :: held) released stray (issued + 1) := by
  refine ⟨?_, fun t ht => Nat.lt_succ_of_lt (h.known t ht)⟩
  have hgrow : (issued :: (List.range issued ++ stray)).Perm
      (List.range (issued + 1) ++ stray) := by
    rw [List.range_succ, List.append_assoc]
    exact List.perm_middle.symm
  exact (h.account.cons issued).trans hgrow

/-- Tokens are released by whoever holds them. -/
theorem release (ts : List ℕ)
    (h : Balanced (ts ++ held) released stray issued) :
    Balanced held (ts ++ released) stray issued := by
  refine ⟨List.Perm.trans ?_ h.account, h.known⟩
  rw [← List.append_assoc]
  exact List.perm_append_comm.append_right released

/-- A token is released by somebody else than its holder. -/
theorem releaseStray (h : Balanced held released stray issued)
    (ht : t ∈ held) : Balanced held (t :: released) (t :: stray) issued := by
  refine ⟨?_, List.forall_mem_cons.mpr ⟨h.issued_of_mem ht, h.known⟩⟩
  calc (held ++ t :: released).Perm (t :: (held ++ released)) :=
        List.perm_middle
    _ |>.Perm (t :: (List.range issued ++ stray)) := h.account.cons t
    _ |>.Perm (List.range issued ++ t :: stray) := List.perm_middle.symm

/-- When no token is held any more, each was released exactly once if and only
if none was released by a stranger. -/
theorem released_once_iff (h : Balanced [] released stray issued) :
    (∀ t < issued, released.count t = 1) ↔ stray = [] := by
  have hcount : ∀ t < issued, released.count t = 1 + stray.count t := by
    intro t ht
    have hrange : (List.range issued).count t = 1 :=
      List.count_eq_one_of_mem List.nodup_range (List.mem_range.mpr ht)
    rw [← hrange, ← List.count_append]
    exact h.account.count_eq t
  constructor
  · intro honce
    rw [List.eq_nil_iff_forall_not_mem]
    intro t ht
    have hpos : 0 < stray.count t := List.count_pos_iff.mpr ht
    have hone := honce t (h.known t ht)
    have htotal := hcount t (h.known t ht)
    omega
  · rintro rfl t ht
    exact hcount t ht

end Balanced

/-! ## Slots -/

variable {α β : Type}

/-- What the first `n` slots hold. -/
def slots (f : ℕ → List α) (n : ℕ) : List α := (List.range n).flatMap f

@[simp] theorem slots_zero (f : ℕ → List α) : slots f 0 = [] := rfl

theorem slots_succ (f : ℕ → List α) (n : ℕ) :
    slots f (n + 1) = slots f n ++ f n := by
  simp [slots, List.range_succ]

/-- Writing beyond the first `n` slots leaves them. -/
theorem slots_update (f : β → List α) (g : ℕ → β) (n : ℕ) (b : β) :
    slots (fun i => f (Function.update g n b i)) n = slots (fun i => f (g i)) n :=
  List.flatMap_congr fun i hi => by
    rw [Function.update_of_ne (Nat.ne_of_lt (List.mem_range.mp hi))]

end Custody
end SurfaceCameras
