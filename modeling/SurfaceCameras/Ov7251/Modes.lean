import SurfaceCameras.Kernel.Device
import SurfaceCameras.Ov7251.RegisterTables
import Mathlib.Data.Int.Notation
import Mathlib.Algebra.Group.Nat.Defs

/-!
# Modes of the OV7251 driver

The mode table with the changes the module parameters make to its first entry,
and the choice of a mode by frame interval.
-/

namespace SurfaceCameras
namespace Ov7251

open Kernel

/-- The integer module parameters read by `ov7251_probe`. -/
structure Params where
  vtsBoost : ℤ
  winTiming : ℤ
  deriving DecidableEq, Repr

/-- `struct v4l2_fract`. -/
structure Fract where
  numerator : ℕ
  denominator : ℕ
  deriving DecidableEq, Repr

/-- The fields of `struct ov7251_mode_info` the driver reads. -/
structure ModeInfo where
  width : ℕ
  height : ℕ
  vts : ℕ
  data : List RegValue
  exposureMax : ℕ
  exposureDef : ℕ
  timeperframe : Fract

def timingMinVts : ℤ := 1
def timingMaxVts : ℤ := 0xffff
def integrationMargin : ℤ := 20
def boostIntegrationMargin : ℤ := 256
def fixedPpl : ℤ := 928

/-- The entry of the table that the module parameters replace. -/
def vga30fps : ModeInfo where
  width := 640
  height := 480
  vts := 1724
  data := settingVga30fps
  exposureMax := 1704
  exposureDef := 504
  timeperframe := ⟨100, 3000⟩

def vga60fps : ModeInfo where
  width := 640
  height := 480
  vts := 860
  data := settingVga60fps
  exposureMax := 840
  exposureDef := 504
  timeperframe := ⟨100, 6014⟩

def vga90fps : ModeInfo where
  width := 640
  height := 480
  vts := 572
  data := settingVga90fps
  exposureMax := 552
  exposureDef := 504
  timeperframe := ⟨100, 9043⟩

/-- `ov7251_win_mode`. -/
def winMode : ModeInfo where
  width := 640
  height := 480
  vts := 522
  data := settingVgaWin
  exposureMax := 502
  exposureDef := 400
  timeperframe := ⟨100, 13179⟩

/-- `ov7251_probe` uses `vts_boost` only in this range. -/
def BoostAccepted (vtsBoost : ℤ) : Prop :=
  522 < vtsBoost ∧ vtsBoost ≤ timingMaxVts

instance (vtsBoost : ℤ) : Decidable (BoostAccepted vtsBoost) :=
  inferInstanceAs (Decidable (_ ∧ _))

/-- The first entry after probe; `exposure_max` is a 16-bit field. -/
def firstMode (par : Params) : ModeInfo :=
  if par.winTiming ≠ 0 then
    winMode
  else if BoostAccepted par.vtsBoost then
    { vga30fps with
      vts := par.vtsBoost.toNat
      exposureMax :=
        (par.vtsBoost - boostIntegrationMargin).toNat % 2 ^ 16
      timeperframe := ⟨100, 3000 * 1724 / par.vtsBoost.toNat⟩ }
  else
    vga30fps

/-- `ov7251_mode_info_data[]`. -/
def modeInfoData (par : Params) : Fin 3 → ModeInfo
  | 0 => firstMode par
  | 1 => vga60fps
  | 2 => vga90fps

@[simp] theorem modeInfoData_zero (par : Params) :
    modeInfoData par 0 = firstMode par := rfl

@[simp] theorem modeInfoData_one (par : Params) :
    modeInfoData par 1 = vga60fps := rfl

@[simp] theorem modeInfoData_two (par : Params) :
    modeInfoData par 2 = vga90fps := rfl

theorem modeInfoData_size (par : Params) (n : Fin 3) :
    (modeInfoData par n).width = 640 ∧ (modeInfoData par n).height = 480 := by
  match n with
  | 0 =>
      rw [modeInfoData_zero, firstMode]
      split
      · exact ⟨rfl, rfl⟩
      · split <;> exact ⟨rfl, rfl⟩
  | 1 => exact ⟨rfl, rfl⟩
  | 2 => exact ⟨rfl, rfl⟩

@[simp] theorem modeInfoData_width (par : Params) (n : Fin 3) :
    (modeInfoData par n).width = 640 := (modeInfoData_size par n).1

@[simp] theorem modeInfoData_height (par : Params) (n : Fin 3) :
    (modeInfoData par n).height = 480 := (modeInfoData_size par n).2

theorem firstMode_cases (par : Params) :
    firstMode par = winMode ∨ firstMode par = vga30fps ∨
      BoostAccepted par.vtsBoost ∧ (firstMode par).vts = par.vtsBoost.toNat ∧
        (firstMode par).exposureDef = 504 := by
  unfold firstMode
  split
  · exact Or.inl rfl
  · split
    · next h => exact Or.inr (Or.inr ⟨h, rfl, rfl⟩)
    · exact Or.inr (Or.inl rfl)

theorem exposureDef_pos (par : Params) (n : Fin 3) :
    1 ≤ (modeInfoData par n).exposureDef := by
  match n with
  | 0 =>
      rw [modeInfoData_zero]
      rcases firstMode_cases par with h | h | ⟨-, -, h⟩ <;> rw [h] <;> decide
  | 1 => exact (by decide : 1 ≤ vga60fps.exposureDef)
  | 2 => exact (by decide : 1 ≤ vga90fps.exposureDef)

/-- The frame length of every mode exceeds its height and fits 16 bits. -/
theorem vts_bounds (par : Params) (n : Fin 3) :
    481 ≤ (modeInfoData par n).vts ∧ (modeInfoData par n).vts ≤ 65535 := by
  match n with
  | 0 =>
      rw [modeInfoData_zero]
      rcases firstMode_cases par with h | h | ⟨⟨hlo, hhi⟩, h, -⟩
      · rw [h]
        decide
      · rw [h]
        decide
      · have hmax : timingMaxVts = 65535 := rfl
        rw [h]
        omega
  | 1 => exact (by decide : 481 ≤ vga60fps.vts ∧ vga60fps.vts ≤ 65535)
  | 2 => exact (by decide : 481 ≤ vga90fps.vts ∧ vga90fps.vts ≤ 65535)

/-- The entry of the table in use after probe. -/
abbrev initialMode : Fin 3 := 0

/-- The entries after it. -/
abbrev vga60Mode : Fin 3 := 1

abbrev vga90Mode : Fin 3 := 2

/-! ## The mode nearest to a frame interval -/

/-- `avg_fps`, in 32-bit arithmetic. -/
def avgFps {σ : Type} (t : Fract) : Prog σ Fault ℕ :=
  divide ((t.denominator + t.numerator / 2) % 2 ^ 32) t.numerator

/-- `abs()` of an unsigned difference, which the macro reads as a signed
`int`. -/
def absDiff (a b : ℕ) : ℕ :=
  (BitVec.ofNat 32 a - BitVec.ofNat 32 b).toInt.natAbs

/-- The loop of `ov7251_find_mode_by_ival` over the rest of the table. -/
def nearestRate {σ : Type} (par : Params) (mode : ModeInfo) (fpsReq : ℕ) :
    List (Fin 3) → Fin 3 → ℕ → Prog σ Fault (Fin 3)
  | [], n, _ => pure n
  | i :: is, n, maxDistMatch => do
      let entry := modeInfoData par i
      if mode.width ≠ entry.width ∨ mode.height ≠ entry.height then
        nearestRate par mode fpsReq is n maxDistMatch
      else do
        let fpsTmp ← avgFps entry.timeperframe
        let dist := absDiff fpsReq fpsTmp
        if dist < maxDistMatch then
          nearestRate par mode fpsReq is i dist
        else
          nearestRate par mode fpsReq is n maxDistMatch

/-- `ov7251_find_mode_by_ival`. -/
def findModeByIval {σ : Type} (par : Params) (mode : ModeInfo)
    (timeperframe : Fract) : Prog σ Fault (Fin 3) := do
  let fpsReq ← avgFps timeperframe
  nearestRate par mode fpsReq [0, 1, 2] 0 (2 ^ 32 - 1)

theorem avgFps_state {σ : Type} (t : Fract) (s : σ) :
    (avgFps t s).2 = s := by
  unfold avgFps divide
  split <;> rfl

theorem nearestRate_state {σ : Type} (par : Params) (mode : ModeInfo)
    (fpsReq : ℕ) (is : List (Fin 3)) (n : Fin 3) (dist : ℕ) (s : σ) :
    (nearestRate par mode fpsReq is n dist s).2 = s := by
  induction is generalizing n dist with
  | nil => rfl
  | cons i is ih =>
      rw [nearestRate]
      split
      · exact ih n dist
      · rw [Prog.bind_apply]
        have hfps := avgFps_state (modeInfoData par i).timeperframe s
        revert hfps
        rcases avgFps (modeInfoData par i).timeperframe s with ⟨_ | fps, s'⟩
        · exact id
        · rintro rfl
          dsimp only
          split
          · exact ih i _
          · exact ih n dist

theorem findModeByIval_state {σ : Type} (par : Params) (mode : ModeInfo)
    (timeperframe : Fract) (s : σ) :
    (findModeByIval par mode timeperframe s).2 = s := by
  unfold findModeByIval
  rw [Prog.bind_apply]
  have hfps := avgFps_state timeperframe s
  revert hfps
  rcases avgFps timeperframe s with ⟨_ | fps, s'⟩
  · exact id
  · rintro rfl
    exact nearestRate_state par mode fps _ _ _ _

end Ov7251
end SurfaceCameras
