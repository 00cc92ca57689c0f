import SurfaceCameras.Ov7251.Controls

/-!
# What the calls of the OV7251 driver do to its controls

The effects of `ov7251_set_format` and `ov7251_set_frame_interval`, and the
invariant of the controls under every call on the active state.  The mode
table has to be consistent: the default exposure of a mode lies in its range,
which the range check of the control core would otherwise refuse.
-/

namespace SurfaceCameras
namespace Ov7251

open Kernel Device Runs

/-- The default exposure of every mode is one the mode allows. -/
def Params.Consistent (par : Params) : Prop :=
  ∀ n, (modeInfoData par n).exposureDef ≤ (modeInfoData par n).exposureMax

/-- What every call keeps of the controls and the bus. -/
structure Regular (d : Device) : Prop where
  clean : Clean d
  exposure_settled : d.exposure.Settled
  exposure_minimum : d.exposure.minimum = 1
  exposure_step : d.exposure.step = 1
  vblank_settled : d.vblank.Settled
  vblank_minimum : d.vblank.minimum = timingMinVts
  vblank_maximum : d.vblank.maximum = timingMaxVts - 480

namespace Regular

variable {d d' : Device}

theorem of_sensorOnly (hd : Regular d) (h : SensorOnly d d') :
    Regular d' where
  clean := h.clean hd.clean
  exposure_settled := h.exposure ▸ hd.exposure_settled
  exposure_minimum := h.exposure ▸ hd.exposure_minimum
  exposure_step := h.exposure ▸ hd.exposure_step
  vblank_settled := h.vblank ▸ hd.vblank_settled
  vblank_minimum := h.vblank ▸ hd.vblank_minimum
  vblank_maximum := h.vblank ▸ hd.vblank_maximum

theorem withExposure (hd : Regular d) {c : Ctrl} (hc : c.Settled)
    (hmin : c.minimum = 1) (hst : c.step = 1) :
    Regular { d with exposure := c } :=
  { hd with
    exposure_settled := hc, exposure_minimum := hmin, exposure_step := hst }

theorem withMode (hd : Regular d) (n : Fin 3) :
    Regular { d with currentMode := n } :=
  { hd with }

theorem withVblank (hd : Regular d) {c : Ctrl} (hc : c.Settled)
    (hmin : c.minimum = timingMinVts) (hmax : c.maximum = timingMaxVts - 480) :
    Regular { d with vblank := c } :=
  { hd with
    vblank_settled := hc, vblank_minimum := hmin, vblank_maximum := hmax }

theorem le_vblank (hd : Regular d) : timingMinVts ≤ d.vblank.cur :=
  hd.vblank_minimum ▸ hd.vblank_settled.min_le

theorem vblank_le (hd : Regular d) : d.vblank.cur ≤ timingMaxVts - 480 :=
  hd.vblank_maximum ▸ hd.vblank_settled.le_max

end Regular

section Parameters

variable (par : Params)

theorem exposureMargin_le : exposureMargin par ≤ 256 := by
  unfold exposureMargin
  split <;> decide

/-! ## Starting values of a mode -/

theorem exposureRangeOk (hpar : par.Consistent) (n : Fin 3) :
    Ctrl.RangeOk 1 (modeInfoData par n).exposureMax 1
      (modeInfoData par n).exposureDef := by
  have hdef := exposureDef_pos par n
  have hmax := hpar n
  refine ⟨Nat.one_ne_zero, ?_, ?_, ?_⟩ <;> omega

theorem vblankRangeOk (n : Fin 3) :
    Ctrl.RangeOk timingMinVts (timingMaxVts - (modeInfoData par n).height) 1
      ((modeInfoData par n).vts - (modeInfoData par n).height) := by
  obtain ⟨hlo, hhi⟩ := vts_bounds par n
  simp only [Ctrl.RangeOk, timingMinVts, timingMaxVts, modeInfoData_height]
  omega

/-- Exposure and gain as a mode starts with them. -/
def startExposure (mode : ModeInfo) (d : Device) : Device :=
  { d with
    exposure := Ctrl.newStd 1 mode.exposureMax 1 mode.exposureDef
    gain := d.gain.applied 16 }

theorem resetExposure_does (hpar : par.Consistent) (n : Fin 3) :
    Does (resetExposure par (modeInfoData par n))
      (startExposure (modeInfoData par n)) := by
  have hr := exposureRangeOk par hpar n
  have hcb : Does (sCtrl par .exposure) id := sCtrl_does par .exposure
  have hcb' : Does (sCtrl par .analogueGain) id := sCtrl_does par .analogueGain
  have h := (v4l2CtrlModifyRange_does (i := .exposure) hcb hr).seq
    ((v4l2CtrlSCtrl_does (i := .exposure) hcb
      (modeInfoData par n).exposureDef).seq
        (v4l2CtrlSCtrl_does (i := .analogueGain) hcb' 16)
        (Stable.update _ _) (Stable.update _ _))
    (Stable.update _ _) ((Stable.update _ _).comp (Stable.update _ _))
  have heq : startExposure (modeInfoData par n) =
      ((ctrlField .analogueGain).update (fun c => c.applied 16) ∘
        (ctrlField .exposure).update
          (fun c => c.applied (modeInfoData par n).exposureDef)) ∘
        (ctrlField .exposure).update (fun c =>
          (c.withRange 1 (modeInfoData par n).exposureMax 1
            (modeInfoData par n).exposureDef).applied c.cur) := by
    funext d
    simp only [startExposure, Function.comp_apply, Field.update, ctrlField,
      exposureField, gainField, Ctrl.applied, Ctrl.withRange, Ctrl.newStd,
      FixedWidth.clamp_of_mem hr.2.2.1 hr.2.2.2]
  rw [heq]
  exact h

/-! ## Calls that select a mode -/

/-- The device after an active mode has been stored. -/
def modeStored (n : Fin 3) (d : Device) : Device :=
  { startExposure (modeInfoData par n) d with
    vblank := d.vblank.withRange timingMinVts (timingMaxVts - 480) 1
      ((modeInfoData par n).vts - 480)
    currentMode := n }

theorem setActiveMode_ok (hpar : par.Consistent) (n : Fin 3) {d : Device}
    (hd : Regular d) :
    ∃ d', setActiveMode par n d = (.ok (), d') ∧
      SensorOnly (modeStored par n d) d' := by
  obtain ⟨d₁, hok₁, h₁⟩ := resetExposure_does par hpar n d hd.clean
  have hv : d₁.vblank = d.vblank := h₁.vblank
  obtain ⟨d₂, hok₂, h₂⟩ := v4l2CtrlModifyRange_does_of (i := .vblank)
    (sCtrl_does par .vblank) (Stable.exposureFollows par)
    (vblankRangeOk par n) d₁ (h₁.clean hd.clean)
  refine ⟨{ d₂ with currentMode := n }, ?_, ?_⟩
  · unfold setActiveMode
    refine (Prog.bind_ok hok₁).trans ((Prog.bind_ok hok₂).trans rfl)
  · -- The applied value is in the new range, so the callback is not reached.
    simp only [modeInfoData_height] at h₂
    have hkeep := Ctrl.withRange_validateNew hd.vblank_settled.val_eq
      hd.le_vblank hd.vblank_le 1 ((modeInfoData par n).vts - 480)
    have hval : d₁.vblank.val = d₁.vblank.cur := by
      rw [hv]
      exact hd.vblank_settled.val_eq
    rw [← hv] at hkeep
    rw [Function.comp_apply, setEffect_unchanged, update_update] at h₂
    · have h := (h₁.update .vblank _).trans h₂
      have heq : (ctrlField .vblank).update (Ctrl.validateNew ∘ fun c =>
          (c.withRange timingMinVts (timingMaxVts - 480) 1
            ((modeInfoData par n).vts - 480)).curToNew)
              (startExposure (modeInfoData par n) d) =
          { startExposure (modeInfoData par n) d with
            vblank := d.vblank.withRange timingMinVts (timingMaxVts - 480) 1
              ((modeInfoData par n).vts - 480) } := by
        rw [hv] at hkeep
        rw [← hkeep]
        rfl
      exact (heq ▸ h).withMode n
    · rw [Field.get_update]
      exact (congrArg Ctrl.val hkeep).trans hval

/-- What `ov7251_set_format` adds to the mode: the size and the format of the
pad. -/
def formatStored (d : Device) : Device :=
  { d with
    pad :=
      { d.pad with
        crop := { d.pad.crop with width := 640, height := 480 }
        format := MbusFramefmt.y10 640 480 } }

variable (nearest : ℕ → ℕ → Fin 3)

theorem setFormat_ok (hpar : par.Consistent) (w h : ℕ) {d : Device}
    (hd : Regular d) :
    ∃ d', setFormat par nearest .active w h d =
        (.ok (MbusFramefmt.y10 640 480), d') ∧
      SensorOnly (formatStored (modeStored par (nearest w h) d)) d' := by
  let d₀ : Device :=
    { d with
      pad := { d.pad with crop := { d.pad.crop with width := 640, height := 480 } } }
  have hd₀ : Regular d₀ :=
    ⟨hd.clean, hd.exposure_settled, hd.exposure_minimum, hd.exposure_step,
      hd.vblank_settled, hd.vblank_minimum, hd.vblank_maximum⟩
  obtain ⟨d₁, hok, h₁⟩ := setActiveMode_ok par hpar (nearest w h) hd₀
  have hpad : d₁.pad = d₀.pad := h₁.pad
  refine ⟨{ d₁ with
    pad := { d₁.pad with format := MbusFramefmt.y10 640 480 } }, ?_, ?_⟩
  · unfold setFormat
    simp only [modeInfoData_height, modeInfoData_width]
    rw [Prog.bind_ok (Prog.modify_apply _ d)]
    refine (Prog.bind_ok hok).trans ?_
    rw [Prog.bind_ok (Prog.modify_apply _ d₁), Prog.gets_apply]
    simp only [padState, Field.update, hpad]
    rfl
  · rw [hpad]
    exact h₁.withPad _

/-- The device after a frame interval has selected a mode. -/
def intervalStored (n : Fin 3) (d : Device) : Device :=
  { startExposure (modeInfoData par n) d with currentMode := n }

/-- `ov7251_set_frame_interval` either leaves the device as it is or stores the
exposure of another mode. -/
theorem setFrameInterval_cases (hpar : par.Consistent) (t : Fract)
    {d : Device} (hd : Regular d) :
    (∃ n, (findModeByIval par (modeInfoData par d.currentMode) t d).1 = .ok n ∧
      n ≠ d.currentMode ∧
      SensorOnly (intervalStored par n d)
        (setFrameInterval par .active t d).2) ∨
    ((∀ n, (findModeByIval par (modeInfoData par d.currentMode) t d).1 =
        .ok n → n = d.currentMode) ∧
      (setFrameInterval par .active t d).2 = d) := by
  have hstate := findModeByIval_state par (modeInfoData par d.currentMode) t d
  simp only [setFrameInterval, setActiveInterval]
  rw [Prog.bind_ok (Prog.gets_apply _ d)]
  rcases hfind : findModeByIval par (modeInfoData par d.currentMode) t d with
    ⟨e | n, d'⟩
  · rw [hfind] at hstate
    rw [Prog.bind_error hfind]
    refine Or.inr ⟨?_, hstate⟩
    intro n hn
    cases hn
  · rw [hfind] at hstate
    have hstate : d' = d := hstate
    subst hstate
    rw [Prog.bind_ok hfind]
    by_cases hn : n = d'.currentMode
    · refine Or.inr ⟨fun m hm => (Except.ok.inj hm).symm.trans hn, ?_⟩
      rw [Prog.when_neg (not_not_intro hn)]
      rfl
    · refine Or.inl ⟨n, rfl, hn, ?_⟩
      obtain ⟨d₁, hok, h₁⟩ := resetExposure_does par hpar n d' hd.clean
      rw [Prog.when_pos hn]
      have hset := Prog.bind_ok (f := fun _ =>
        Prog.modify fun d : Device => { d with currentMode := n }) hok
      rw [Prog.bind_ok (hset.trans (Prog.modify_apply _ _))]
      exact h₁.withMode n

/-! ## The invariant -/

theorem startExposure_regular (hpar : par.Consistent) (n : Fin 3)
    {d : Device} (hd : Regular d) :
    Regular (startExposure (modeInfoData par n) d) := by
  have hreg := hd.withExposure
    (Ctrl.newStd_settled (exposureRangeOk par hpar n)) rfl rfl
  exact { hreg with }

theorem modeStored_regular (hpar : par.Consistent) (n : Fin 3)
    {d : Device} (hd : Regular d) : Regular (modeStored par n d) := by
  have hreg := (startExposure_regular par hpar n hd).withVblank
    (c := d.vblank.withRange timingMinVts (timingMaxVts - 480) 1
      ((modeInfoData par n).vts - 480))
    ⟨hd.vblank_settled.val_eq, hd.le_vblank, hd.vblank_le⟩ rfl rfl
  exact { hreg with }

theorem formatStored_regular {d : Device} (hd : Regular d) :
    Regular (formatStored d) :=
  { hd with }

/-- A frame always leaves room for an exposure, so the range that follows the
vertical blanking is one the control core accepts. -/
theorem followRangeOk {c : Ctrl} (hc : c.Settled) (hmin : c.minimum = 1)
    (hst : c.step = 1) {vblank : ℤ} (hv : timingMinVts ≤ vblank) :
    Ctrl.RangeOk c.minimum (480 + vblank - exposureMargin par) c.step
      (min c.val (480 + vblank - exposureMargin par)) := by
  have hmargin := exposureMargin_le par
  have hpos := hc.min_le
  have hval := hc.val_eq
  simp only [timingMinVts] at hv
  simp only [Ctrl.RangeOk]
  omega

/-- The exposure range after a change of the vertical blanking: the range
change is never refused. -/
theorem followVblank_eq {c : Ctrl} (hc : c.Settled) (hmin : c.minimum = 1)
    (hst : c.step = 1) {vblank : ℤ} (hv : timingMinVts ≤ vblank) :
    1 ≤ 480 + vblank - exposureMargin par ∧
      followVblank par vblank c =
        (c.withRange 1 (480 + vblank - exposureMargin par) 1
          (min c.val (480 + vblank - exposureMargin par))).applied c.cur := by
  have hr := followRangeOk par hc hmin hst hv
  refine ⟨hmin ▸ hr.2.1, ?_⟩
  rw [followVblank, if_pos hr, hmin, hst]

theorem followVblank_maximum {c : Ctrl} (hc : c.Settled) (hmin : c.minimum = 1)
    (hst : c.step = 1) {vblank : ℤ} (hv : timingMinVts ≤ vblank) :
    (followVblank par vblank c).maximum =
      480 + vblank - exposureMargin par := by
  obtain ⟨-, heq⟩ := followVblank_eq par hc hmin hst hv
  rw [heq]
  rfl

theorem Regular.follow {d : Device} (hd : Regular d) {vblank : ℤ}
    (hv : timingMinVts ≤ vblank) :
    Regular { d with exposure := followVblank par vblank d.exposure } := by
  obtain ⟨hroom, heq⟩ := followVblank_eq par hd.exposure_settled
    hd.exposure_minimum hd.exposure_step hv
  rw [heq]
  exact hd.withExposure (Ctrl.applied_settled hroom _) rfl rfl

theorem vblankWritten_regular (v : ℤ) {d : Device} (hd : Regular d) :
    Regular (vblankWritten par v d) := by
  have hrange : d.vblank.minimum ≤ d.vblank.maximum :=
    le_trans hd.vblank_settled.min_le hd.vblank_settled.le_max
  have hv : (d.vblank.applied v).Settled := Ctrl.applied_settled hrange v
  have hreg := hd.withVblank hv hd.vblank_minimum hd.vblank_maximum
  unfold vblankWritten
  split
  · exact hreg
  · exact hreg.follow par hreg.le_vblank

/-- Every call on the active state keeps the invariant. -/
theorem step_regular (hpar : par.Consistent) {d : Device} (hd : Regular d)
    (c : Call) : Regular (step par nearest d c) := by
  cases c with
  | setFormat w h =>
      obtain ⟨d', hok, h'⟩ := setFormat_ok par nearest hpar w h hd
      have hreg := formatStored_regular
        (modeStored_regular par hpar (nearest w h) hd)
      have hstep : step par nearest d (.setFormat w h) = d' := by
        simp only [step, hok]
      rw [hstep]
      exact hreg.of_sensorOnly h'
  | setFrameInterval t =>
      rcases setFrameInterval_cases par hpar t hd with
        ⟨n, -, -, h'⟩ | ⟨-, heq⟩
      · exact ((startExposure_regular par hpar n hd).withMode n).of_sensorOnly h'
      · rw [step, heq]
        exact hd
  | write i v =>
      by_cases hi : i = .vblank
      · subst hi
        exact (vblankWritten_regular par v hd).of_sensorOnly
          ((writeVblank_does par v).outcome hd.clean)
      · have h' := writeControl_outcome par hi v hd.clean
        refine Regular.of_sensorOnly ?_ h'
        cases i with
        | vblank => exact absurd rfl hi
        | exposure =>
            have hrange : d.exposure.minimum ≤ d.exposure.maximum :=
              le_trans hd.exposure_settled.min_le hd.exposure_settled.le_max
            exact hd.withExposure (Ctrl.applied_settled hrange v)
              hd.exposure_minimum hd.exposure_step
        | hflip | vflip | analogueGain | testPattern => exact { hd with }

theorem initCtrls_regular (board : Board) :
    Regular (initCtrls par board) where
  clean := rfl
  exposure_settled := Ctrl.newStd_settled (by decide)
  exposure_minimum := rfl
  exposure_step := rfl
  vblank_settled := Ctrl.newStd_settled (vblankRangeOk par 0)
  vblank_minimum := rfl
  vblank_maximum := by
    rw [initCtrls, modeInfoData_height]
    rfl

/-- What probe leaves: the mode nearest to 640x480 over the blanking of the
first mode. -/
theorem probe_sensorOnly (hpar : par.Consistent) (board : Board) :
    SensorOnly
      (formatStored (modeStored par (nearest 640 480) (initCtrls par board)))
      (probe par nearest board) := by
  obtain ⟨d', hok, h'⟩ := setFormat_ok par nearest hpar 640 480
    (initCtrls_regular par board)
  have hprobe : probe par nearest board = d' := by
    simp only [probe, initState, Prog.tryCatch, Prog.bind_ok hok,
      Prog.pure_apply]
  exact hprobe ▸ h'

theorem probe_regular (hpar : par.Consistent) (board : Board) :
    Regular (probe par nearest board) := by
  have hreg := modeStored_regular par hpar (nearest 640 480)
    (initCtrls_regular par board)
  exact (formatStored_regular hreg).of_sensorOnly
    (probe_sensorOnly par nearest hpar board)

end Parameters

end Ov7251
end SurfaceCameras
