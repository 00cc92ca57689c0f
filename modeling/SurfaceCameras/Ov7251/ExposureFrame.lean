import SurfaceCameras.Ov7251.ModeEffects

/-!
# Exposure and frame length of the OV7251 driver

An exposure has to end before the frame does.  Writing the vertical blanking
moves the exposure range along with the frame length; selecting a mode takes
exposure and range from the mode table, whatever the blanking is.  So the law
depends on how the mode's default exposure compares with the frame at the
moment a mode is selected, and on what is written within a range taken from
the table.
-/

namespace SurfaceCameras
namespace Ov7251

open Kernel Device Runs

/-- The module parameters left at their defaults. -/
def stockParams : Params := ⟨0, 0⟩

/-- A board with a 19.2 MHz clock, and a chip that has just been reset. -/
def plainBoard : Board := ⟨.mhz19_2, 0, fun _ => 0, 0, 0, 0⟩

section Parameters

variable (par : Params) (nearest : ℕ → ℕ → Fin 3)

/-- The longest exposure that ends within the frame. -/
def frameLimit (d : Device) : ℤ :=
  d.height par + d.vblank.cur - integrationMargin

/-- The exposure ends within the frame. -/
def ExposureInFrame (d : Device) : Prop := d.exposure.cur ≤ frameLimit par d

/-- The calls after which an exposure within the frame is still within the
frame: a selected mode has a default exposure that fits the current frame, and
a written exposure, clamped to the current range, fits it too. -/
def StaysInFrame (d : Device) : Call → Prop
  | .setFormat w h =>
      ((modeInfoData par (nearest w h)).exposureDef : ℤ) ≤ frameLimit par d
  | .setFrameInterval t =>
      ∀ n, (findModeByIval par (modeInfoData par d.currentMode) t d).1 =
          .ok n → n ≠ d.currentMode →
        ((modeInfoData par n).exposureDef : ℤ) ≤ frameLimit par d
  | .write .exposure v =>
      FixedWidth.clamp v d.exposure.minimum d.exposure.maximum ≤
        frameLimit par d
  | .write _ _ => True

theorem exposureInFrame_iff {d d' : Device} {e : ℤ}
    (hexp : d'.exposure.cur = e) (hvb : d'.vblank.cur = d.vblank.cur) :
    ExposureInFrame par d' ↔ e ≤ frameLimit par d := by
  simp only [ExposureInFrame, frameLimit, height_eq, hexp, hvb]

theorem exposureInFrame_of_sensorOnly {d d' : Device}
    (h : SensorOnly d d') :
    ExposureInFrame par d' ↔ ExposureInFrame par d :=
  exposureInFrame_iff par (by rw [h.exposure]) (by rw [h.vblank])

/-- With the ordinary margin, the range that follows the blanking is the
frame. -/
theorem vblankWritten_inFrame (hmargin : exposureMargin par = integrationMargin)
    (v : ℤ) {d : Device} (hd : Regular d) (hin : ExposureInFrame par d) :
    ExposureInFrame par (vblankWritten par v d) := by
  unfold vblankWritten
  split
  · next hsame => exact (exposureInFrame_iff (d := d) par rfl hsame).mpr hin
  · have hrange : d.vblank.minimum ≤ d.vblank.maximum :=
      le_trans hd.vblank_settled.min_le hd.vblank_settled.le_max
    have hreg := hd.withVblank (Ctrl.applied_settled hrange v)
      hd.vblank_minimum hd.vblank_maximum
    obtain ⟨hroom, heq⟩ := followVblank_eq par hd.exposure_settled
      hd.exposure_minimum hd.exposure_step hreg.le_vblank
    rw [heq]
    rw [hmargin] at hroom ⊢
    simp only [ExposureInFrame, frameLimit, height_eq]
    exact FixedWidth.clamp_le hroom

/-- One call keeps the exposure within the frame exactly if it is one of the
calls above. -/
theorem step_inFrame_iff (hpar : par.Consistent)
    (hmargin : exposureMargin par = integrationMargin) {d : Device}
    (hd : Regular d) (hin : ExposureInFrame par d) (c : Call) :
    ExposureInFrame par (step par nearest d c) ↔
      StaysInFrame par nearest d c := by
  cases c with
  | setFormat w h =>
      obtain ⟨d', hok, h'⟩ := setFormat_ok par nearest hpar w h hd
      have hstep : step par nearest d (.setFormat w h) = d' := by
        simp only [step, hok]
      rw [hstep, exposureInFrame_of_sensorOnly par h']
      exact exposureInFrame_iff par rfl rfl
  | setFrameInterval t =>
      rcases setFrameInterval_cases par hpar t hd with
        ⟨n, hfind, hn, h'⟩ | ⟨hnone, heq⟩
      · have hiff : ExposureInFrame par (intervalStored par n d) ↔
            ((modeInfoData par n).exposureDef : ℤ) ≤ frameLimit par d :=
          exposureInFrame_iff par rfl rfl
        rw [step, exposureInFrame_of_sensorOnly par h', hiff]
        constructor
        · intro hle m hm _
          rw [hfind] at hm
          exact Except.ok.inj hm ▸ hle
        · exact fun hall => hall n hfind hn
      · rw [step, heq]
        exact iff_of_true hin fun n hfind hn => absurd (hnone n hfind) hn
  | write i v =>
      by_cases hi : i = .vblank
      · subst hi
        have h' := (writeVblank_does par v).outcome hd.clean
        rw [step, exposureInFrame_of_sensorOnly par h']
        exact iff_of_true (vblankWritten_inFrame par hmargin v hd hin) trivial
      · have h' := writeControl_outcome par hi v hd.clean
        rw [step, exposureInFrame_of_sensorOnly par h']
        cases i with
        | vblank => exact absurd rfl hi
        | exposure => exact Iff.rfl
        | hflip | vflip | analogueGain | testPattern =>
            exact iff_of_true hin trivial

theorem probe_inFrame (hpar : par.Consistent)
    (hvts : (modeInfoData par (nearest 640 480)).exposureDef + 20 ≤
      (modeInfoData par initialMode).vts) (board : Board) :
    ExposureInFrame par (probe par nearest board) := by
  rw [exposureInFrame_of_sensorOnly par
    (probe_sensorOnly par nearest hpar board)]
  have hheight : (modeInfoData par initialMode).height = 480 := modeInfoData_height par 0
  simp only [ExposureInFrame, frameLimit, height_eq, formatStored, modeStored,
    startExposure, initCtrls, Ctrl.newStd, Ctrl.withRange, integrationMargin,
    hheight]
  omega

end Parameters

theorem stockParams_consistent : stockParams.Consistent := by
  unfold Params.Consistent
  decide

/-- With the default module parameters, a run from probe keeps the exposure
within the frame exactly if each of its calls does. -/
theorem exposureInFrame_throughout_iff (nearest : ℕ → ℕ → Fin 3)
    (board : Board) (calls : List Call) :
    Throughout (step stockParams nearest) (ExposureInFrame stockParams)
        (probe stockParams nearest board) calls ↔
      Along (step stockParams nearest) (StaysInFrame stockParams nearest)
        (probe stockParams nearest board) calls := by
  have hpar := stockParams_consistent
  have hvts : ∀ n, (modeInfoData stockParams n).exposureDef + 20 ≤
      (modeInfoData stockParams 0).vts := by decide
  refine throughout_iff_along (I := Regular) ?_ ?_
    (probe_regular stockParams nearest hpar board)
    (probe_inFrame stockParams nearest hpar (hvts _) board)
  · exact fun d c hd _ => step_regular stockParams nearest hpar hd c
  · exact fun d c hd hin =>
      step_inFrame_iff stockParams nearest hpar rfl hd hin c

/-- Shortening the frame and selecting the mode again gives an exposure longer
than the frame. -/
theorem exposureInFrame_fails :
    ¬ ∀ (nearest : ℕ → ℕ → Fin 3) (board : Board) (calls : List Call),
      Throughout (step stockParams nearest) (ExposureInFrame stockParams)
        (probe stockParams nearest board) calls := by
  intro h
  have hlast := (h (fun _ _ => 0) ⟨.mhz19_2, 0, fun _ => 0, 0, 0, 0⟩
    [.write .vblank 1, .setFormat 640 480]).last
  revert hlast
  unfold ExposureInFrame
  decide +kernel

end Ov7251
end SurfaceCameras
