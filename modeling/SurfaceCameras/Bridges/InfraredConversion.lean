import SurfaceCameras.Bridges.InfraredFrames
import SurfaceCameras.Bridges.InfraredExposure
import Mathlib.Algebra.Order.Floor.Semifield

/-!
# The two conversions of the infrared bridge

Without digital gain a sample is shifted and its upper bits are dropped; with
digital gain it is scaled and clipped.  On samples of ten bits a gain of one
makes no difference between them.  A wedged start also delivers larger samples,
and those come out dark where clipping would have left them white.
-/

namespace SurfaceCameras
namespace Bridges
namespace Infrared

theorem shiftSample_toNat (x : BitVec 16) :
    (shiftSample x).toNat = x.toNat / 4 % 256 := by
  unfold shiftSample
  rw [BitVec.toNat_setWidth, BitVec.toNat_ushiftRight, Nat.shiftRight_eq_div_pow]

theorem clipped_le (v : ℚ) : ⌊min (max v 0) 255⌋₊ ≤ 255 := by
  have hle := Nat.floor_mono (min_le_right (max v 0) 255)
  have hcast : ⌊(255 : ℚ)⌋₊ = 255 := Nat.floor_natCast 255
  rwa [hcast] at hle

theorem scaleSample_toNat (digital : ℚ) (x : BitVec 16) :
    (scaleSample digital x).toNat =
      ⌊min (max ((x.toNat : ℚ) * (digital / 4)) 0) 255⌋₊ := by
  have hle := clipped_le ((x.toNat : ℚ) * (digital / 4))
  unfold scaleSample
  rw [BitVec.toNat_ofNat]
  omega

/-- Without gain a scaled sample is the quarter of it, as far as that fits. -/
theorem scaleSample_one (x : BitVec 16) :
    (scaleSample 1 x).toNat = min (x.toNat / 4) 255 := by
  have hquarter : ⌊(x.toNat : ℚ) * (1 / 4)⌋₊ = x.toNat / 4 := by
    rw [mul_one_div]
    exact_mod_cast Nat.floor_div_eq_div (K := ℚ) x.toNat 4
  have hnonneg : 0 ≤ (x.toNat : ℚ) * (1 / 4) := by positivity
  rw [scaleSample_toNat, max_eq_left hnonneg]
  rcases le_total ((x.toNat : ℚ) * (1 / 4)) 255 with hle | hle
  · have hfloor := Nat.floor_mono hle
    have hcast : ⌊(255 : ℚ)⌋₊ = 255 := Nat.floor_natCast 255
    rw [hquarter, hcast] at hfloor
    rw [min_eq_left hle, hquarter, min_eq_left hfloor]
  · have hfloor := Nat.floor_mono hle
    have hcast : ⌊(255 : ℚ)⌋₊ = 255 := Nat.floor_natCast 255
    rw [hquarter, hcast] at hfloor
    rw [min_eq_right hle, hcast, min_eq_right hfloor]

theorem scaleSample_mono {digital : ℚ} (hdigital : 1 ≤ digital)
    {x y : BitVec 16} (h : x.toNat ≤ y.toNat) :
    (scaleSample digital x).toNat ≤ (scaleSample digital y).toNat := by
  have hgain : 0 ≤ digital / 4 := by positivity
  have hle : (x.toNat : ℚ) * (digital / 4) ≤ (y.toNat : ℚ) * (digital / 4) :=
    mul_le_mul_of_nonneg_right (Nat.cast_le.mpr h) hgain
  rw [scaleSample_toNat, scaleSample_toNat]
  exact Nat.floor_mono (min_le_min_right 255 (max_le_max_right 0 hle))

/-- The bits that a shift drops do not matter: there are none, or the ones that
are left are all set. -/
def FitsByte (x : BitVec 16) : Prop :=
  x.toNat ≤ 1023 ∨ x.toNat / 4 % 256 = 255

instance (x : BitVec 16) : Decidable (FitsByte x) :=
  inferInstanceAs (Decidable (_ ∨ _))

theorem shiftSample_eq_iff (x : BitVec 16) :
    shiftSample x = scaleSample 1 x ↔ FitsByte x := by
  rw [← BitVec.toNat_inj, shiftSample_toNat, scaleSample_one]
  unfold FitsByte
  omega

/-- On this image the two conversions agree without gain, and with any gain the
bridge uses no brighter sample yields a darker pixel. -/
structure ConvertsAlike (img : Image) : Prop where
  agree : convert 1 img = fun y x => scaleSample 1 (img y x)
  monotone : ∀ digital, 1 ≤ digital → digital ≤ digitalMax →
    ∀ y x y' x', (img y x).toNat ≤ (img y' x').toNat →
      (convert digital img y x).toNat ≤ (convert digital img y' x').toNat

theorem convert_one (img : Image) :
    convert 1 img = fun y x => shiftSample (img y x) := by
  funext y x
  exact if_pos rfl

/-- The conversions agree on an image exactly if no sample loses set bits to a
clear one in the shift, and where they agree they keep the order of samples. -/
theorem convertsAlike_iff (img : Image) :
    ConvertsAlike img ↔ ∀ y x, FitsByte (img y x) := by
  constructor
  · intro h y x
    have hagree := congrFun (congrFun h.agree y) x
    rw [convert_one] at hagree
    exact (shiftSample_eq_iff (img y x)).mp hagree
  · intro hfits
    have hagree : convert 1 img = fun y x => scaleSample 1 (img y x) := by
      rw [convert_one]
      funext y x
      exact (shiftSample_eq_iff (img y x)).mpr (hfits y x)
    have hscale : ∀ digital,
        convert digital img = fun y x => scaleSample digital (img y x) := by
      intro digital
      by_cases hone : digital = 1
      · rw [hone]
        exact hagree
      · funext y x
        exact if_neg hone
    refine ⟨hagree, fun digital hlo _ y x y' x' h => ?_⟩
    rw [hscale]
    exact scaleSample_mono hlo h

/-- An image with a sample of eleven bits. -/
theorem convertsAlike_fails : ¬ ∀ img : Image, ConvertsAlike img := by
  intro h
  have hagree := (h fun _ _ => 1024).agree
  rw [convert_one] at hagree
  have hsample := congrFun (congrFun hagree ⟨0, by decide⟩) ⟨0, by decide⟩
  have hnot : ¬ FitsByte 1024 := by decide
  exact hnot ((shiftSample_eq_iff 1024).mp hsample)

end Infrared
end Bridges
end SurfaceCameras
