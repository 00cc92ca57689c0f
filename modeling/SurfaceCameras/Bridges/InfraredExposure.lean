import SurfaceCameras.Support.Runs
import Mathlib.Data.Rat.Floor
import Mathlib.Tactic.Linarith
import Mathlib.Tactic.NormNum

/-!
# The exposure loop of the infrared bridge

While it streams, `surface-ir-bridge` compares the mean of the frames it relays
with a target and corrects one of three knobs: exposure time, analogue gain and
a digital gain of its own.  A correction goes to the cheapest knob that still
has room; the order of the knobs is nowhere stored, it follows from the order
of the branches.  Means and factors are exact rationals here.
-/

namespace SurfaceCameras
namespace Bridges
namespace Infrared

open Runs

/-- `TARGET_MEAN`. -/
def targetMean : ℚ := 110

/-- `GAIN_MIN` and `GAIN_MAX`. -/
def gainMin : ℤ := 16
def gainMax : ℤ := 1023

/-- `DIGITAL_MAX`. -/
def digitalMax : ℚ := 6

/-- The three knobs of the loop. -/
structure Knobs where
  exposure : ℤ
  gain : ℤ
  digital : ℚ
  deriving DecidableEq, Repr

/-- Python's `int` of a number: towards zero. -/
def truncate (x : ℚ) : ℤ := if 0 ≤ x then ⌊x⌋ else ⌈x⌉

/-- The mean is left alone. -/
def InBand (mean : ℚ) : Prop :=
  targetMean * (3 / 4) ≤ mean ∧ mean ≤ targetMean * (13 / 10)

instance (mean : ℚ) : Decidable (InBand mean) :=
  inferInstanceAs (Decidable (_ ∧ _))

/-- The correction asked for. -/
def factor (mean : ℚ) : ℚ := min (max (targetMean / max mean 1) (2 / 5)) 2

section Range

variable (exposureMin exposureMax : ℤ)

/-- Spend a factor on one of the knobs. -/
def spend (f : ℚ) (k : Knobs) : Knobs :=
  if f < 1 ∧ 1 < k.digital then
    { k with digital := max (k.digital * f) 1 }
  else if f < 1 ∧ gainMin < k.gain then
    { k with gain := max (truncate (k.gain * f)) gainMin }
  else if f < 1 then
    { k with exposure := max (truncate (k.exposure * f)) exposureMin }
  else if k.exposure < exposureMax then
    { k with exposure := min (truncate (k.exposure * f)) exposureMax }
  else if k.gain < gainMax then
    { k with gain := min (truncate (k.gain * f)) gainMax }
  else
    { k with digital := min (k.digital * f) digitalMax }

/-- One adjustment of the loop for a measured mean. -/
def adjust (mean : ℚ) (k : Knobs) : Knobs :=
  if InBand mean then k else spend exposureMin exposureMax (factor mean) k

/-- The knobs at the start of a session. -/
def initialKnobs : Knobs := ⟨min 800 exposureMax, 256, 1⟩

/-- The variables of the loop: the knobs, and when it last looked at them. -/
structure Ae where
  knobs : Knobs
  lastAe : ℚ
  deriving DecidableEq, Repr

/-- What the loop does with a frame of this mean at this time: it adjusts at
most every quarter of a second. -/
def aeStep (s : Ae) (frame : ℚ × ℚ) : Ae :=
  if 1 / 4 < frame.2 - s.lastAe then
    ⟨adjust exposureMin exposureMax frame.1 s.knobs, frame.2⟩
  else
    s

/-- Every knob is in its range. -/
structure InRange (k : Knobs) : Prop where
  exposure_ge : exposureMin ≤ k.exposure
  exposure_le : k.exposure ≤ exposureMax
  gain_ge : gainMin ≤ k.gain
  gain_le : k.gain ≤ gainMax
  digital_ge : 1 ≤ k.digital
  digital_le : k.digital ≤ digitalMax

end Range

/-! ## Truncation -/

theorem truncate_of_nonneg {x : ℚ} (hx : 0 ≤ x) : truncate x = ⌊x⌋ :=
  if_pos hx

section Truncation

variable {n : ℤ} {f : ℚ}

theorem mul_nonneg_of_le (hn : 1 ≤ n) (hf : 0 ≤ f) : 0 ≤ (n : ℚ) * f := by
  have hcast : (1 : ℚ) ≤ n := by exact_mod_cast hn
  exact mul_nonneg (zero_le_one.trans hcast) hf

theorem lt_truncate_mul_iff (hn : 1 ≤ n) (hf : 0 ≤ f) :
    n < truncate (n * f) ↔ (n : ℚ) + 1 ≤ n * f := by
  rw [truncate_of_nonneg (mul_nonneg_of_le hn hf), ← Int.add_one_le_iff,
    Int.le_floor]
  push_cast
  exact Iff.rfl

theorem le_truncate_mul (hn : 1 ≤ n) (hf : 1 ≤ f) : n ≤ truncate (n * f) := by
  have hcast : (1 : ℚ) ≤ n := by exact_mod_cast hn
  rw [truncate_of_nonneg (mul_nonneg_of_le hn (zero_le_one.trans hf)),
    Int.le_floor]
  nlinarith

theorem truncate_mul_lt (hn : 1 ≤ n) (h0 : 0 ≤ f) (hf : f < 1) :
    truncate (n * f) < n := by
  have hcast : (1 : ℚ) ≤ n := by exact_mod_cast hn
  rw [truncate_of_nonneg (mul_nonneg_of_le hn h0), Int.floor_lt]
  nlinarith

end Truncation

/-! ## The factor -/

theorem le_factor_iff {c : ℚ} (hc : 2 / 5 < c) (hc2 : c ≤ 2) (mean : ℚ) :
    c ≤ factor mean ↔ c * mean ≤ targetMean := by
  have hpos : 0 < max mean 1 := lt_max_of_lt_right one_pos
  have hc0 : 0 < c := lt_trans (by norm_num) hc
  have htarget : c * 1 ≤ targetMean := by
    unfold targetMean
    linarith
  have hmax : c * max mean 1 ≤ targetMean ↔ c * mean ≤ targetMean := by
    rw [mul_max_of_nonneg _ _ hc0.le, max_le_iff]
    exact and_iff_left htarget
  unfold factor
  rw [le_min_iff, le_max_iff, le_div_iff₀ hpos, hmax]
  constructor
  · rintro ⟨h | h, -⟩
    · exact h
    · exact absurd h (not_le.mpr hc)
  · exact fun h => ⟨Or.inl h, hc2⟩

theorem factor_nonneg (mean : ℚ) : 0 ≤ factor mean := by
  apply le_min
  · exact le_max_of_le_right (by norm_num)
  · norm_num

section Band

variable {mean : ℚ}

/-- A dark frame asks for more than a third more. -/
theorem lt_factor_of_low (h : mean < targetMean * (3 / 4)) :
    4 / 3 < factor mean := by
  have hpos : 0 < max mean 1 := lt_max_of_lt_right one_pos
  have hmax : max mean 1 < 165 / 2 := by
    unfold targetMean at h
    apply max_lt
    · linarith
    · norm_num
  have hdiv : 4 / 3 < targetMean / max mean 1 := by
    rw [lt_div_iff₀ hpos]
    unfold targetMean
    linarith
  exact lt_min (lt_max_of_lt_left hdiv) (by norm_num)

theorem factor_lt_of_high (h : targetMean * (13 / 10) < mean) :
    factor mean < 1 := by
  by_contra hno
  have hle := (le_factor_iff (by norm_num) (by norm_num) mean).mp (not_lt.mp hno)
  unfold targetMean at h hle
  linarith

end Band

/-! ## Progress -/

section Progress

variable {exposureMin exposureMax : ℤ} {mean f : ℚ} {k : Knobs}

/-- No knob is lower, and one is higher. -/
def Raised (k k' : Knobs) : Prop :=
  (k.exposure ≤ k'.exposure ∧ k.gain ≤ k'.gain ∧ k.digital ≤ k'.digital) ∧
    (k.exposure < k'.exposure ∨ k.gain < k'.gain ∨ k.digital < k'.digital)

variable (exposureMin exposureMax) in
/-- A dark frame raises a knob and a bright one lowers one, unless all three
are at their end. -/
structure MakesProgress (mean : ℚ) (k : Knobs) : Prop where
  low : mean < targetMean * (3 / 4) →
    Raised k (adjust exposureMin exposureMax mean k) ∨
      k = ⟨exposureMax, gainMax, digitalMax⟩
  high : targetMean * (13 / 10) < mean →
    Raised (adjust exposureMin exposureMax mean k) k ∨
      k = ⟨exposureMin, gainMin, 1⟩

variable (exposureMax) in
/-- The frame asks for more exposure, and truncation leaves nothing of the
correction. -/
def Swallowed (mean : ℚ) (k : Knobs) : Prop :=
  mean < targetMean * (3 / 4) ∧ k.exposure < exposureMax ∧
    (k.exposure = 1 ∧ 55 < mean ∨ k.exposure = 2 ∧ 220 / 3 < mean)

theorem spend_lowers (hk : InRange exposureMin exposureMax k)
    (hmin : 1 ≤ exposureMin) (h0 : 0 ≤ f) (hf : f < 1) :
    Raised (spend exposureMin exposureMax f k) k ∨
      k = ⟨exposureMin, gainMin, 1⟩ := by
  unfold spend
  by_cases hdigital : 1 < k.digital
  · left
    rw [if_pos ⟨hf, hdigital⟩]
    have hlt : max (k.digital * f) 1 < k.digital := by
      apply max_lt _ hdigital
      nlinarith
    exact ⟨⟨le_refl _, le_refl _, hlt.le⟩, Or.inr (Or.inr hlt)⟩
  rw [if_neg fun h => hdigital h.2]
  by_cases hgain : gainMin < k.gain
  · left
    rw [if_pos ⟨hf, hgain⟩]
    have hone : 1 ≤ k.gain := le_trans (by decide) hgain.le
    have hlt : max (truncate (k.gain * f)) gainMin < k.gain :=
      max_lt (truncate_mul_lt hone h0 hf) hgain
    exact ⟨⟨le_refl _, hlt.le, le_refl _⟩, Or.inr (Or.inl hlt)⟩
  rw [if_neg fun h => hgain h.2, if_pos hf]
  by_cases hexposure : exposureMin < k.exposure
  · left
    have hone : 1 ≤ k.exposure := hmin.trans hexposure.le
    have hlt : max (truncate (k.exposure * f)) exposureMin < k.exposure :=
      max_lt (truncate_mul_lt hone h0 hf) hexposure
    exact ⟨⟨hlt.le, le_refl _, le_refl _⟩, Or.inl hlt⟩
  · right
    have hd : k.digital = 1 := le_antisymm (not_lt.mp hdigital) hk.digital_ge
    have hg : k.gain = gainMin := le_antisymm (not_lt.mp hgain) hk.gain_ge
    have he : k.exposure = exposureMin :=
      le_antisymm (not_lt.mp hexposure) hk.exposure_ge
    obtain ⟨e, g, d⟩ := k
    rw [Knobs.mk.injEq]
    exact ⟨he, hg, hd⟩

/-- A correction of more than a third raises a knob unless it is swallowed. -/
theorem spend_raises (hk : InRange exposureMin exposureMax k)
    (hf : 4 / 3 < f)
    (hwhole : k.exposure < exposureMax → k.exposure < truncate (k.exposure * f)) :
    Raised k (spend exposureMin exposureMax f k) ∨
      k = ⟨exposureMax, gainMax, digitalMax⟩ := by
  have hnot : ¬ f < 1 := by linarith
  unfold spend
  rw [if_neg fun h => hnot h.1, if_neg fun h => hnot h.1, if_neg hnot]
  by_cases hexposure : k.exposure < exposureMax
  · left
    rw [if_pos hexposure]
    have hlt : k.exposure < min (truncate (k.exposure * f)) exposureMax :=
      lt_min (hwhole hexposure) hexposure
    exact ⟨⟨hlt.le, le_refl _, le_refl _⟩, Or.inl hlt⟩
  rw [if_neg hexposure]
  by_cases hgain : k.gain < gainMax
  · left
    rw [if_pos hgain]
    have hge : (16 : ℤ) ≤ k.gain := hk.gain_ge
    have hcast : (16 : ℚ) ≤ k.gain := by exact_mod_cast hge
    have htrunc : k.gain < truncate (k.gain * f) := by
      rw [lt_truncate_mul_iff (by linarith) (by linarith)]
      nlinarith
    have hlt : k.gain < min (truncate (k.gain * f)) gainMax :=
      lt_min htrunc hgain
    exact ⟨⟨le_refl _, hlt.le, le_refl _⟩, Or.inr (Or.inl hlt)⟩
  rw [if_neg hgain]
  by_cases hdigital : k.digital < digitalMax
  · left
    have hlt : k.digital < min (k.digital * f) digitalMax := by
      have hge := hk.digital_ge
      apply lt_min _ hdigital
      nlinarith
    exact ⟨⟨le_refl _, le_refl _, hlt.le⟩, Or.inr (Or.inr hlt)⟩
  · right
    have he : k.exposure = exposureMax :=
      le_antisymm hk.exposure_le (not_lt.mp hexposure)
    have hg : k.gain = gainMax := le_antisymm hk.gain_le (not_lt.mp hgain)
    have hd : k.digital = digitalMax :=
      le_antisymm hk.digital_le (not_lt.mp hdigital)
    obtain ⟨e, g, d⟩ := k
    rw [Knobs.mk.injEq]
    exact ⟨he, hg, hd⟩

theorem spend_swallowed (hf : 1 ≤ f) (hexposure : k.exposure < exposureMax)
    (hone : 1 ≤ k.exposure)
    (hpart : ¬ k.exposure < truncate (k.exposure * f)) :
    spend exposureMin exposureMax f k = k := by
  have hnot : ¬ f < 1 := not_lt.mpr hf
  have hsame : truncate (k.exposure * f) = k.exposure :=
    le_antisymm (not_lt.mp hpart) (le_truncate_mul hone hf)
  unfold spend
  rw [if_neg fun h => hnot h.1, if_neg fun h => hnot h.1, if_neg hnot,
    if_pos hexposure, hsame, min_eq_left hexposure.le]

/-- What truncation leaves of a correction for a dark frame. -/
theorem lt_truncate_exposure_iff (hone : 1 ≤ k.exposure)
    (hlow : mean < targetMean * (3 / 4)) :
    k.exposure < truncate (k.exposure * factor mean) ↔
      ¬ (k.exposure = 1 ∧ 55 < mean ∨ k.exposure = 2 ∧ 220 / 3 < mean) := by
  have hfactor := lt_factor_of_low hlow
  rw [lt_truncate_mul_iff hone (factor_nonneg mean)]
  obtain h1 | h2 | h3 : k.exposure = 1 ∨ k.exposure = 2 ∨ 3 ≤ k.exposure := by
    omega
  · rw [h1]
    have htwo : (2 : ℚ) ≤ factor mean ↔ mean ≤ 55 := by
      rw [le_factor_iff (by norm_num) (le_refl _)]
      unfold targetMean
      constructor <;> intro h <;> linarith
    have hcast : ((1 : ℤ) : ℚ) + 1 ≤ (1 : ℤ) * factor mean ↔
        (2 : ℚ) ≤ factor mean := by
      norm_num
    rw [hcast, htwo]
    simp
  · rw [h2]
    have hhalf : (3 / 2 : ℚ) ≤ factor mean ↔ mean ≤ 220 / 3 := by
      rw [le_factor_iff (by norm_num) (by norm_num)]
      unfold targetMean
      constructor <;> intro h <;> linarith
    have hcast : ((2 : ℤ) : ℚ) + 1 ≤ (2 : ℤ) * factor mean ↔
        (3 / 2 : ℚ) ≤ factor mean := by
      push_cast
      constructor <;> intro h <;> linarith
    rw [hcast, hhalf]
    simp
  · have hcast : (3 : ℚ) ≤ k.exposure := by exact_mod_cast h3
    apply iff_of_true
    · nlinarith
    · rintro (⟨h, -⟩ | ⟨h, -⟩) <;> omega

/-- For a mean outside the band the loop makes progress exactly if truncation
does not swallow the correction. -/
theorem makesProgress_iff (exposureMin exposureMax : ℤ) (mean : ℚ) (k : Knobs)
    (hmin : 1 ≤ exposureMin) (hk : InRange exposureMin exposureMax k)
    (hmean : ¬ InBand mean) :
    MakesProgress exposureMin exposureMax mean k ↔
      ¬ Swallowed exposureMax mean k := by
  have hadjust : adjust exposureMin exposureMax mean k =
      spend exposureMin exposureMax (factor mean) k := if_neg hmean
  have hone : 1 ≤ k.exposure := hmin.trans hk.exposure_ge
  constructor
  · rintro hprogress ⟨hlow, hexposure, hpart⟩
    have hstuck : spend exposureMin exposureMax (factor mean) k = k := by
      apply spend_swallowed _ hexposure hone
      · exact fun h => (lt_truncate_exposure_iff hone hlow).mp h hpart
      · linarith [lt_factor_of_low hlow]
    obtain ⟨-, hraised⟩ | htop := hprogress.low hlow
    · rw [hadjust, hstuck] at hraised
      obtain h | h | h := hraised
      · exact lt_irrefl _ h
      · exact lt_irrefl _ h
      · exact lt_irrefl _ h
    · rw [htop] at hexposure
      exact lt_irrefl _ hexposure
  · intro hwhole
    constructor
    · intro hlow
      rw [hadjust]
      apply spend_raises hk (lt_factor_of_low hlow)
      intro hexposure
      rw [lt_truncate_exposure_iff hone hlow]
      exact fun hpart => hwhole ⟨hlow, hexposure, hpart⟩
    · intro hhigh
      rw [hadjust]
      exact spend_lowers hk hmin (factor_nonneg mean) (factor_lt_of_high hhigh)

end Progress

/-- At half the target mean, truncation does not swallow the correction of 800
lines. -/
theorem makesProgress_dim :
    MakesProgress 2 1704 50 ⟨800, 256, 1⟩ := by
  refine (makesProgress_iff 2 1704 50 ⟨800, 256, 1⟩ (by decide) ?_ ?_).mpr ?_
  · constructor <;> decide
  · decide +kernel
  · rintro ⟨-, -, ⟨h, -⟩ | ⟨h, -⟩⟩
    · exact absurd h (by decide)
    · exact absurd h (by decide)

/-- Bright frames take the exposure down to one line, where a slightly dark one
does not bring it up again. -/
example :
    run (fun k mean => adjust 1 3192 mean k) (initialKnobs 3192)
        (List.replicate 12 255) = ⟨1, gainMin, 1⟩ ∧
      adjust 1 3192 80 ⟨1, gainMin, 1⟩ = ⟨1, gainMin, 1⟩ := by
  constructor
  · decide +kernel
  · decide +kernel

theorem progress_fails :
    ¬ ∀ (exposureMin exposureMax : ℤ) (mean : ℚ) (k : Knobs),
      1 ≤ exposureMin → InRange exposureMin exposureMax k → ¬ InBand mean →
        MakesProgress exposureMin exposureMax mean k := by
  intro h
  have hprogress := h 1 3192 80 ⟨1, gainMin, 1⟩ (le_refl _)
    (by constructor <;> decide) (by decide +kernel)
  obtain ⟨-, hraised⟩ | htop := hprogress.low (by decide +kernel)
  · revert hraised
    decide +kernel
  · exact absurd htop (by decide)

/-! ## The order of the knobs -/

section Order

variable {exposureMin exposureMax : ℤ} {f : ℚ} {k : Knobs}

variable (exposureMin exposureMax) in
/-- The digital gain is spent only when the sensor has nothing left, and
analogue gain beyond the initial one only when the exposure has nothing
left. -/
structure NoiseLast (k : Knobs) : Prop
    extends InRange exposureMin exposureMax k where
  digital_last : 1 < k.digital → k.exposure = exposureMax ∧ k.gain = gainMax
  gain_last : k.exposure < exposureMax → k.gain ≤ 256

theorem initialKnobs_noiseLast (hmin : exposureMin ≤ 800)
    (hmax : exposureMin ≤ exposureMax) :
    NoiseLast exposureMin exposureMax (initialKnobs exposureMax) where
  exposure_ge := le_min hmin hmax
  exposure_le := min_le_right _ _
  gain_ge := show gainMin ≤ 256 by decide
  gain_le := show 256 ≤ gainMax by decide
  digital_ge := le_refl _
  digital_le := show 1 ≤ digitalMax by decide +kernel
  digital_last h := absurd h (lt_irrefl _)
  gain_last _ := le_refl _

/-- Giving back keeps the order: digital gain first, exposure last. -/
theorem spend_down_noiseLast (hmin : 1 ≤ exposureMin)
    (hk : NoiseLast exposureMin exposureMax k) (h0 : 0 ≤ f) (hf : f < 1) :
    NoiseLast exposureMin exposureMax (spend exposureMin exposureMax f k) := by
  unfold spend
  by_cases hdigital : 1 < k.digital
  · rw [if_pos ⟨hf, hdigital⟩]
    have hle : max (k.digital * f) 1 ≤ k.digital := by
      apply max_le _ hdigital.le
      nlinarith
    exact
      { hk with
        digital_ge := le_max_right _ _
        digital_le := hle.trans hk.digital_le
        digital_last := fun _ => hk.digital_last hdigital }
  rw [if_neg fun h => hdigital h.2]
  by_cases hgain : gainMin < k.gain
  · rw [if_pos ⟨hf, hgain⟩]
    have hone : 1 ≤ k.gain := le_trans (by decide) hgain.le
    have hle : max (truncate (k.gain * f)) gainMin ≤ k.gain :=
      max_le (truncate_mul_lt hone h0 hf).le hgain.le
    exact
      { hk with
        gain_ge := le_max_right _ _
        gain_le := hle.trans hk.gain_le
        digital_last := fun h => absurd h hdigital
        gain_last := fun h => hle.trans (hk.gain_last h) }
  rw [if_neg fun h => hgain h.2, if_pos hf]
  have hone : 1 ≤ k.exposure := hmin.trans hk.exposure_ge
  have hle : max (truncate (k.exposure * f)) exposureMin ≤ k.exposure :=
    max_le (truncate_mul_lt hone h0 hf).le hk.exposure_ge
  have hleast : k.gain ≤ 256 := (not_lt.mp hgain).trans (by decide)
  exact
    { hk with
      exposure_ge := le_max_right _ _
      exposure_le := hle.trans hk.exposure_le
      digital_last := fun h => absurd h hdigital
      gain_last := fun _ => hleast }

/-- Asking for more keeps it too: exposure first, digital gain last. -/
theorem spend_up_noiseLast (hmin : 1 ≤ exposureMin)
    (hk : NoiseLast exposureMin exposureMax k) (hf : 1 ≤ f) :
    NoiseLast exposureMin exposureMax (spend exposureMin exposureMax f k) := by
  have hnot : ¬ f < 1 := not_lt.mpr hf
  unfold spend
  rw [if_neg fun h => hnot h.1, if_neg fun h => hnot h.1, if_neg hnot]
  by_cases hexposure : k.exposure < exposureMax
  · rw [if_pos hexposure]
    have hone : 1 ≤ k.exposure := hmin.trans hk.exposure_ge
    have hge : k.exposure ≤ min (truncate (k.exposure * f)) exposureMax :=
      le_min (le_truncate_mul hone hf) hexposure.le
    exact
      { hk with
        exposure_ge := hk.exposure_ge.trans hge
        exposure_le := min_le_right _ _
        digital_last := fun h => absurd (hk.digital_last h).1 hexposure.ne
        gain_last := fun _ => hk.gain_last hexposure }
  rw [if_neg hexposure]
  by_cases hgain : k.gain < gainMax
  · rw [if_pos hgain]
    have hone : 1 ≤ k.gain := le_trans (by decide) hk.gain_ge
    have hge : k.gain ≤ min (truncate (k.gain * f)) gainMax :=
      le_min (le_truncate_mul hone hf) hgain.le
    exact
      { hk with
        gain_ge := hk.gain_ge.trans hge
        gain_le := min_le_right _ _
        digital_last := fun h => absurd (hk.digital_last h).2 hgain.ne
        gain_last := fun h => absurd h hexposure }
  rw [if_neg hgain]
  have hge : k.digital ≤ min (k.digital * f) digitalMax := by
    have hone := hk.digital_ge
    apply le_min _ hk.digital_le
    nlinarith
  have he : k.exposure = exposureMax :=
    le_antisymm hk.exposure_le (not_lt.mp hexposure)
  have hg : k.gain = gainMax := le_antisymm hk.gain_le (not_lt.mp hgain)
  exact
    { hk with
      digital_ge := hk.digital_ge.trans hge
      digital_le := min_le_right _ _
      digital_last := fun _ => ⟨he, hg⟩ }

theorem aeStep_noiseLast (hmin : 1 ≤ exposureMin) {s : Ae}
    (hs : NoiseLast exposureMin exposureMax s.knobs) (frame : ℚ × ℚ) :
    NoiseLast exposureMin exposureMax
      (aeStep exposureMin exposureMax s frame).knobs := by
  unfold aeStep adjust
  split
  · dsimp only
    split
    · exact hs
    · rcases lt_or_ge (factor frame.1) 1 with hf | hf
      · exact spend_down_noiseLast hmin hs (factor_nonneg _) hf
      · exact spend_up_noiseLast hmin hs hf
  · exact hs

/-- In every session the knobs stay in their ranges and noise is spent last,
whatever the frames look like and whenever they come. -/
theorem session_noiseLast (exposureMin exposureMax : ℤ) (hone : 1 ≤ exposureMin)
    (hmin : exposureMin ≤ 800) (hmax : exposureMin ≤ exposureMax)
    (frames : List (ℚ × ℚ)) :
    NoiseLast exposureMin exposureMax
      (run (aeStep exposureMin exposureMax) ⟨initialKnobs exposureMax, 0⟩
        frames).knobs := by
  apply run_induction (I := fun s : Ae =>
    NoiseLast exposureMin exposureMax s.knobs)
  · exact fun s frame hs => aeStep_noiseLast hone hs frame
  · exact initialKnobs_noiseLast hmin hmax

end Order

/-- A dark session with the ceiling of the stock timing. -/
theorem session_noiseLast_dark :
    NoiseLast 1 1468 (run (aeStep 1 1468) ⟨initialKnobs 1468, 0⟩
      [(20, 1), (20, 2), (20, 3)]).knobs :=
  session_noiseLast 1 1468 (by decide) (by decide) (by decide) _

end Infrared
end Bridges
end SurfaceCameras
