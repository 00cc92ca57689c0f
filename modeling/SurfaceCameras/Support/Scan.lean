import Mathlib.Logic.Relation
import Mathlib.Algebra.Order.Group.Unbundled.Int
import Mathlib.Tactic.Common

/-!
# Scans that jump

A scan goes on from every position to a later one, until it is at a limit.
Every position before the limit is either one the scan comes to or one it jumps
over, and never both.
-/

namespace SurfaceCameras

/-- The scan comes from the first position to the second. -/
def Scans (next : ℤ → ℤ) (stop : ℤ) : ℤ → ℤ → Prop :=
  Relation.ReflTransGen fun p q => p < stop ∧ q = next p

namespace Scans

variable {next : ℤ → ℤ} {stop a p q : ℤ}

theorem refl (p : ℤ) : Scans next stop p p := Relation.ReflTransGen.refl

theorem step (h : Scans next stop a p) (hp : p < stop) :
    Scans next stop a (next p) :=
  Relation.ReflTransGen.tail h ⟨hp, rfl⟩

/-- The first step of a scan. -/
theorem head (h : Scans next stop p q) :
    q = p ∨ p < stop ∧ Scans next stop (next p) q := by
  obtain rfl | ⟨p', ⟨hp, rfl⟩, hrest⟩ := Relation.ReflTransGen.cases_head h
  · exact .inl rfl
  · exact .inr ⟨hp, hrest⟩

theorem of_next (hp : p < stop) (h : Scans next stop (next p) q) :
    Scans next stop p q :=
  Relation.ReflTransGen.head ⟨hp, rfl⟩ h

/-- Going from `p` on, the scan comes to `p` and to what it comes to from the
next position. -/
theorem iff_next (hp : p < stop) :
    Scans next stop p q ↔ q = p ∨ Scans next stop (next p) q := by
  refine ⟨fun h => h.head.imp_right And.right, ?_⟩
  rintro (rfl | h)
  · exact refl q
  · exact of_next hp h

/-- What every step keeps holds wherever the scan comes. -/
theorem invariant {P : ℤ → Prop} (hstart : P a) (hstep : ∀ p, P p → P (next p))
    (h : Scans next stop a p) : P p := by
  refine Relation.ReflTransGen.head_induction_on h (fun hp => hp) ?_ hstart
  rintro p _ ⟨-, rfl⟩ _ ih hp
  exact ih (hstep p hp)

section Advancing

variable (hnext : ∀ p, p < next p)

include hnext

theorem le (h : Scans next stop p q) : p ≤ q := by
  refine Relation.ReflTransGen.head_induction_on h le_rfl ?_
  rintro p _ ⟨-, rfl⟩ _ hle
  exact (hnext p).le.trans hle

/-- Of two positions, the later one is not jumped over from the other. -/
theorem apart (hp : Scans next stop a p) (hq : Scans next stop a q)
    (hlt : p < q) : next p ≤ q := by
  have hunique : Relator.RightUnique
      (fun p q => p < stop ∧ q = next p : ℤ → ℤ → Prop) := by
    rintro p q r ⟨-, rfl⟩ ⟨-, rfl⟩
    rfl
  obtain hpq | hqp := Relation.ReflTransGen.total_of_right_unique hunique hp hq
  · obtain rfl | ⟨-, hrest⟩ := head hpq
    · exact absurd hlt (lt_irrefl q)
    · exact le hnext hrest
  · exact absurd hlt (not_lt.mpr (le hnext hqp))

/-- A position is one the scan comes to, or one it jumps over. -/
theorem covers (hle : a ≤ q) (hstop : q ≤ stop) :
    Scans next stop a q ∨
      ∃ p, Scans next stop a p ∧ p < stop ∧ p < q ∧ q < next p := by
  induction q, hle using Int.leInduction with
  | base => exact .inl (refl a)
  | succ q hle ih =>
      obtain hq | ⟨p, hp, hpstop, hlt, hjump⟩ := ih (by omega)
      · have hadvances := hnext q
        obtain heq | hlt := eq_or_lt_of_le (Int.add_one_le_iff.mpr hadvances)
        · exact .inl (heq ▸ hq.step (by omega))
        · exact .inr ⟨q, hq, by omega, by omega, hlt⟩
      · obtain heq | hlt' := eq_or_lt_of_le (Int.add_one_le_iff.mpr hjump)
        · exact .inl (heq ▸ hp.step hpstop)
        · exact .inr ⟨p, hp, hpstop, by omega, hlt'⟩

/-- A position is jumped over exactly if the scan does not come to it. -/
theorem not_iff (hle : a ≤ q) (hstop : q ≤ stop) :
    ¬ Scans next stop a q ↔ ∃ p, Scans next stop a p ∧ p < q ∧ q < next p := by
  constructor
  · intro hnot
    obtain hq | ⟨p, hp, -, hlt, hjump⟩ := covers hnext hle hstop
    · exact absurd hq hnot
    · exact ⟨p, hp, hlt, hjump⟩
  · rintro ⟨p, hp, hlt, hjump⟩ hq
    exact absurd hjump (not_lt.mpr (apart hnext hp hq hlt))

end Advancing

end Scans

end SurfaceCameras
