import SurfaceCameras.Ov7251.ExposureFrame

/-!
# Module parameters the OV7251 driver can work with

The control core refuses a range that does not hold its default.  Two of the
range changes of the driver take their numbers from the mode table, whose first
entry the module parameters replace, and fail the call; the third, inside
`ov7251_s_ctrl`, follows the vertical blanking and its result is dropped.  To
speak of that one too, the calls are stated a second time with the result
passed on.
-/

namespace SurfaceCameras
namespace Ov7251

open Kernel Device Runs

/-- The program returns. -/
def Returns {α : Type} (p : Prog Device Fault α) (d : Device) : Prop :=
  ∃ a, (p d).1 = .ok a

section Parameters

variable (par : Params) (nearest : ℕ → ℕ → Fin 3)

/-! ## Calls that pass every refusal on -/

/-- The range change inside `ov7251_s_ctrl`, with its result. -/
def askExposureRange : Prog Device Fault Unit := do
  let height ← Prog.gets (Device.height par)
  let vblank ← Prog.gets vblankField.get
  let exposure ← Prog.gets exposureField.get
  let exposureMax := height + vblank.val - exposureMargin par
  v4l2CtrlModifyRange exposureField (applyCtrl par .exposure)
    exposure.minimum exposureMax exposure.step (min exposure.val exposureMax)

/-- `ov7251_s_ctrl`, failing where its range change is refused. -/
def sCtrlStrict (id : CtrlId) : Prog Device Fault Unit := do
  Prog.when (id = .vblank) (askExposureRange par)
  applyCtrl par id

/-- `setActiveMode` with the strict callback. -/
def setActiveModeStrict (n : Fin 3) : Prog Device Fault Unit := do
  let mode := modeInfoData par n
  resetExposure par mode
  v4l2CtrlModifyRange vblankField (sCtrlStrict par .vblank) timingMinVts
    (timingMaxVts - mode.height) 1 (mode.vts - mode.height)
  Prog.modify fun d => { d with currentMode := n }

/-- `ov7251_set_format` on the active state, with the strict callback. -/
def setFormatStrict (width height : ℕ) : Prog Device Fault Unit := do
  let n := nearest width height
  let mode := modeInfoData par n
  Prog.modify ((padState .active).update fun p =>
    { p with crop := { p.crop with width := mode.width, height := mode.height } })
  setActiveModeStrict par n
  Prog.modify ((padState .active).update fun p =>
    { p with format := MbusFramefmt.y10 p.crop.width p.crop.height })

/-- A control write from user space, with the strict callback. -/
def writeControlStrict (id : CtrlId) (v : ℤ) : Prog Device Fault Unit :=
  v4l2SCtrl (ctrlField id) (sCtrlStrict par id) (ctrlType id) v

/-- A call returns, and no range change it makes is refused.  A frame interval
makes range changes of the mode table only, and a value that a menu does not
have makes none. -/
def Accepted (d : Device) : Call → Prop
  | .setFormat w h =>
      Returns (setFormat par nearest .active w h) d ∧
        Returns (setFormatStrict par nearest w h) d
  | .setFrameInterval t => Returns (setFrameInterval par .active t) d
  | .write i v =>
      ((ctrlField i).get d).stdValidate v (ctrlType i) ≠ none →
        Returns (writeControl par i v) d ∧
          Returns (writeControlStrict par i v) d

/-- The frame interval is one the driver can divide by. -/
def Call.HasNumerator : Call → Prop
  | .setFrameInterval t => t.numerator ≠ 0
  | _ => True

end Parameters

/-! ## The mode table -/

/-- Only the first entry of the table can have a default exposure that does not
fit. -/
theorem consistent_iff_first (par : Params) :
    par.Consistent ↔
      (modeInfoData par initialMode).exposureDef ≤
        (modeInfoData par initialMode).exposureMax := by
  constructor
  · exact fun h => h initialMode
  · intro h n
    match n with
    | 0 => exact h
    | 1 => exact (by decide : vga60fps.exposureDef ≤ vga60fps.exposureMax)
    | 2 => exact (by decide : vga90fps.exposureDef ≤ vga90fps.exposureMax)

/-- The default exposures fit their modes unless `vts_boost` is in use with a
frame that is too short for one. -/
theorem consistent_iff (par : Params) :
    par.Consistent ↔
      par.winTiming ≠ 0 ∨ ¬ (523 ≤ par.vtsBoost ∧ par.vtsBoost ≤ 759) := by
  rw [consistent_iff_first, modeInfoData_zero, firstMode]
  have hmax : timingMaxVts = 65535 := rfl
  have hmargin : boostIntegrationMargin = 256 := rfl
  split
  · next h => exact iff_of_true (by decide) (Or.inl h)
  · next h =>
      split
      · next hb =>
          obtain ⟨hlo, hhi⟩ := hb
          simp only [vga30fps]
          omega
      · next hb =>
          refine iff_of_true (by decide) (Or.inr ?_)
          rintro ⟨hlo, hhi⟩
          exact hb ⟨by omega, by omega⟩

section Parameters

variable {par : Params} (nearest : ℕ → ℕ → Fin 3)

/-- A mode whose default exposure does not fit is refused. -/
theorem setFormat_refused {w h : ℕ}
    (hmode : (modeInfoData par (nearest w h)).exposureMax <
      (modeInfoData par (nearest w h)).exposureDef) (d : Device) :
    (setFormat par nearest .active w h d).1 = .error (.errno .erange) := by
  have hr : ¬ Ctrl.RangeOk 1 (modeInfoData par (nearest w h)).exposureMax 1
      (modeInfoData par (nearest w h)).exposureDef := by
    intro hr
    have hle := hr.2.2.2
    omega
  have hmode : ∀ d, setActiveMode par (nearest w h) d =
      (.error (.errno .erange), d) := by
    intro d
    apply Prog.bind_error
    apply Prog.bind_error
    unfold v4l2CtrlModifyRange
    rw [if_neg hr]
    rfl
  unfold setFormat
  rw [Prog.bind_ok (Prog.modify_apply _ d)]
  exact congrArg Prod.fst (Prog.bind_error (hmode _))

theorem avgFps_returns {σ : Type} {t : Fract} (ht : t.numerator ≠ 0) (s : σ) :
    ∃ fps, avgFps t s = (.ok fps, s) := by
  unfold avgFps divide
  rw [if_neg ht]
  exact ⟨_, rfl⟩

theorem timeperframe_numerator (par : Params) (n : Fin 3) :
    (modeInfoData par n).timeperframe.numerator ≠ 0 := by
  match n with
  | 0 =>
      rw [modeInfoData_zero, firstMode]
      split
      · decide
      · split
        · exact (by decide : (100 : ℕ) ≠ 0)
        · decide
  | 1 => exact (by decide : vga60fps.timeperframe.numerator ≠ 0)
  | 2 => exact (by decide : vga90fps.timeperframe.numerator ≠ 0)

theorem nearestRate_returns {σ : Type} (mode : ModeInfo) (fpsReq : ℕ)
    (is : List (Fin 3)) (n : Fin 3) (dist : ℕ) (s : σ) :
    ∃ m, nearestRate par mode fpsReq is n dist s = (.ok m, s) := by
  induction is generalizing n dist with
  | nil => exact ⟨n, rfl⟩
  | cons i is ih =>
      rw [nearestRate]
      split
      · exact ih n dist
      · obtain ⟨fps, hfps⟩ := avgFps_returns (timeperframe_numerator par i) s
        rw [Prog.bind_ok hfps]
        by_cases hcloser : absDiff fpsReq fps < dist
        · simp only [if_pos hcloser]
          exact ih i _
        · simp only [if_neg hcloser]
          exact ih n dist

theorem findModeByIval_returns {σ : Type} (mode : ModeInfo) {t : Fract}
    (ht : t.numerator ≠ 0) (s : σ) :
    ∃ n, findModeByIval par mode t s = (.ok n, s) := by
  obtain ⟨fps, hfps⟩ := avgFps_returns ht s
  unfold findModeByIval
  rw [Prog.bind_ok hfps]
  exact nearestRate_returns mode fps _ _ _ s

/-! ## The calls -/

theorem setFrameInterval_returns_iff (hpar : par.Consistent) (t : Fract)
    {d : Device} (hd : Clean d) :
    Returns (setFrameInterval par .active t) d ↔ t.numerator ≠ 0 := by
  simp only [Returns, setFrameInterval, setActiveInterval]
  rw [Prog.bind_ok (Prog.gets_apply _ d)]
  constructor
  · rintro ⟨a, ha⟩ ht
    have hfind : findModeByIval par (modeInfoData par d.currentMode) t d =
        (.error .divideError, d) := by
      unfold findModeByIval
      apply Prog.bind_error
      unfold avgFps divide
      rw [if_pos ht]
      rfl
    rw [Prog.bind_error hfind] at ha
    cases ha
  · intro ht
    obtain ⟨n, hfind⟩ : ∃ n, findModeByIval par
        (modeInfoData par d.currentMode) t d = (.ok n, d) :=
      findModeByIval_returns _ ht d
    rw [Prog.bind_ok hfind]
    by_cases hn : n = d.currentMode
    · rw [Prog.when_neg (not_not_intro hn)]
      exact ⟨_, rfl⟩
    · obtain ⟨d₁, hok, -⟩ := resetExposure_does par hpar n d hd
      rw [Prog.when_pos hn]
      have hset := Prog.bind_ok (f := fun _ =>
        Prog.modify fun d : Device => { d with currentMode := n }) hok
      rw [Prog.bind_ok (hset.trans (Prog.modify_apply _ _))]
      exact ⟨_, rfl⟩

/-- The blanking keeps its value, so the callback is not reached. -/
theorem setActiveModeStrict_ok (hpar : par.Consistent) (n : Fin 3) {d : Device}
    (hd : Regular d) : ∃ d', setActiveModeStrict par n d = (.ok (), d') := by
  obtain ⟨d₁, hok₁, h₁⟩ := resetExposure_does par hpar n d hd.clean
  have hvb : vblankField.get d₁ = d.vblank := h₁.vblank
  have hrange := vblankRangeOk par n
  simp only [modeInfoData_height] at hrange
  obtain ⟨d₂, hok₂⟩ := v4l2CtrlModifyRange_kept vblankField
    (sCtrlStrict par .vblank) (s := d₁) hrange
    (by rw [hvb]; exact hd.le_vblank) (by rw [hvb]; exact hd.vblank_le)
  unfold setActiveModeStrict
  simp only [modeInfoData_height]
  rw [Prog.bind_ok hok₁, Prog.bind_ok hok₂]
  exact ⟨_, rfl⟩

theorem setFormatStrict_returns (hpar : par.Consistent) (w h : ℕ) {d : Device}
    (hd : Regular d) : Returns (setFormatStrict par nearest w h) d := by
  let d₀ := (padState .active).update (fun p =>
    { p with crop := { p.crop with width := 640, height := 480 } }) d
  have hd₀ : Regular d₀ := { hd with }
  obtain ⟨d₁, hok⟩ := setActiveModeStrict_ok hpar (nearest w h) hd₀
  unfold Returns setFormatStrict
  simp only [modeInfoData_height, modeInfoData_width]
  rw [Prog.bind_ok (Prog.modify_apply _ d), Prog.bind_ok hok]
  exact ⟨_, rfl⟩

/-- The range the callback for the vertical blanking asks for the exposure. -/
def ExposureRangeOk (par : Params) (d : Device) : Prop :=
  Ctrl.RangeOk d.exposure.minimum (480 + d.vblank.val - exposureMargin par)
    d.exposure.step
    (min d.exposure.val (480 + d.vblank.val - exposureMargin par))

theorem sCtrlStrict_ok {i : CtrlId} {d : Device} (hd : Clean d)
    (hr : i = .vblank → ExposureRangeOk par d) :
    ∃ d', sCtrlStrict par i d = (.ok (), d') := by
  unfold sCtrlStrict
  by_cases hi : i = .vblank
  · obtain ⟨d₁, hok₁, h₁⟩ := v4l2CtrlModifyRange_does (i := .exposure)
      (applyCtrl_does par .exposure) (hr hi) d hd
    obtain ⟨d₂, hok₂, -⟩ := applyCtrl_does par i d₁ (h₁.clean hd)
    have hask : askExposureRange par d = (.ok (), d₁) := by
      unfold askExposureRange
      rw [Prog.bind_ok (Prog.gets_apply _ d), Prog.bind_ok (Prog.gets_apply _ d),
        Prog.bind_ok (Prog.gets_apply _ d), Device.height_eq]
      exact hok₁
    rw [Prog.when_pos hi, Prog.bind_ok hask]
    exact ⟨d₂, hok₂⟩
  · obtain ⟨d₁, hok₁, -⟩ := applyCtrl_does par i d hd
    rw [Prog.when_neg hi, Prog.bind_ok (Prog.pure_apply () d)]
    exact ⟨d₁, hok₁⟩

theorem setStrict_returns (i : CtrlId) (v : ℤ) {d : Device} (hd : Regular d) :
    Returns (v4l2CtrlSCtrl (ctrlField i) (sCtrlStrict par i) v) d := by
  let d₀ := (ctrlField i).update (fun c => { c with val := v }) d
  have hclean : Clean ((ctrlField i).update Ctrl.validateNew d₀) := by
    rw [clean_update, clean_update]
    exact hd.clean
  have hr : i = .vblank →
      ExposureRangeOk par ((ctrlField i).update Ctrl.validateNew d₀) := by
    rintro rfl
    have hrange : d.vblank.minimum ≤ d.vblank.maximum :=
      le_trans hd.vblank_settled.min_le hd.vblank_settled.le_max
    apply followRangeOk par hd.exposure_settled hd.exposure_minimum
      hd.exposure_step
    rw [← hd.vblank_minimum]
    exact FixedWidth.le_clamp hrange
  obtain ⟨d', hok⟩ := sCtrlStrict_ok hclean hr
  unfold Returns v4l2CtrlSCtrl
  rw [Prog.bind_ok (Prog.modify_apply _ d)]
  by_cases hsame : ((ctrlField i).get d₀).validateNew.val =
      ((ctrlField i).get d₀).cur
  · exact ⟨(), congrArg Prod.fst (setCtrl_unchanged hsame)⟩
  · exact ⟨(), congrArg Prod.fst (setCtrl_changed hsame hok)⟩

theorem write_accepted (i : CtrlId) (v : ℤ) {d : Device} (hd : Regular d) :
    Accepted par nearest d (.write i v) := by
  intro hv
  obtain ⟨w, hw⟩ := Option.ne_none_iff_exists'.mp hv
  obtain ⟨d', hok, -⟩ := set_does par i w d hd.clean
  unfold Returns writeControl writeControlStrict
  rw [v4l2SCtrl_of_some hw, v4l2SCtrl_of_some hw]
  exact ⟨⟨(), congrArg Prod.fst hok⟩, setStrict_returns i w hd⟩

theorem setFormat_accepted (hpar : par.Consistent) (w h : ℕ) {d : Device}
    (hd : Regular d) : Accepted par nearest d (.setFormat w h) := by
  obtain ⟨d', hok, -⟩ := setFormat_ok par nearest hpar w h hd
  exact ⟨⟨_, congrArg Prod.fst hok⟩, setFormatStrict_returns nearest hpar w h hd⟩

theorem accepted_iff (hpar : par.Consistent) {d : Device} (hd : Regular d)
    (c : Call) : Accepted par nearest d c ↔ c.HasNumerator := by
  cases c with
  | setFormat w h =>
      exact iff_of_true (setFormat_accepted nearest hpar w h hd) trivial
  | setFrameInterval t => exact setFrameInterval_returns_iff hpar t hd.clean
  | write i v =>
      exact iff_of_true (write_accepted nearest i v hd) trivial

/-! ## The parameters that work -/

variable (par)

/-- The `set_format` call of `ov7251_init_state` and every call of the run
return, and none of their range changes is refused. -/
def UsableThroughout (board : Board) (calls : List Call) : Prop :=
  Accepted par nearest (initCtrls par board) (.setFormat 640 480) ∧
    Along (step par nearest) (Accepted par nearest) (probe par nearest board)
      calls

/-- The driver is usable exactly with the parameters that leave the default
exposure in the range of its mode, as far as the requested frame intervals can
be divided by. -/
theorem usableThroughout_iff (hnearest : nearest 640 480 = initialMode)
    (board : Board) (calls : List Call) :
    UsableThroughout par nearest board calls ↔
      (par.winTiming ≠ 0 ∨ ¬ (523 ≤ par.vtsBoost ∧ par.vtsBoost ≤ 759)) ∧
        ∀ c ∈ calls, c.HasNumerator := by
  rw [← consistent_iff, UsableThroughout]
  by_cases hpar : par.Consistent
  · have hinit := setFormat_accepted nearest hpar 640 480
      (initCtrls_regular par board)
    have halong := along_iff_along_of (I := Regular) (A := fun _ _ => True)
      (P := Accepted par nearest)
      (fun d c hd _ _ => step_regular par nearest hpar hd c)
      (fun d c hd _ => accepted_iff nearest hpar hd c)
      (probe_regular par nearest hpar board)
      (along_of_forall (fun c (_ : c ∈ calls) => trivial) _)
    rw [halong, along_forall_iff]
    exact and_congr_left' (iff_of_true hinit hpar)
  · refine iff_of_false ?_ fun h => hpar h.1
    rintro ⟨⟨⟨f, hok⟩, -⟩, -⟩
    have hfirst : (modeInfoData par (nearest 640 480)).exposureMax <
        (modeInfoData par (nearest 640 480)).exposureDef := by
      rw [hnearest]
      exact not_le.mp fun hle => hpar ((consistent_iff_first par).mpr hle)
    rw [setFormat_refused nearest hfirst] at hok
    cases hok

end Parameters

theorem usableThroughout_stock :
    UsableThroughout stockParams (fun _ _ => initialMode) plainBoard
        [.setFrameInterval ⟨1, 60⟩, .write .vblank 1] ↔
      (stockParams.winTiming ≠ 0 ∨
        ¬ (523 ≤ stockParams.vtsBoost ∧ stockParams.vtsBoost ≤ 759)) ∧
        ∀ c ∈ [Call.setFrameInterval ⟨1, 60⟩, .write .vblank 1],
          c.HasNumerator :=
  usableThroughout_iff stockParams (fun _ _ => initialMode) rfl plainBoard _

/-- With a frame of 600 lines the driver cannot select its first mode. -/
theorem usableThroughout_fails :
    ¬ ∀ (par : Params) (nearest : ℕ → ℕ → Fin 3) (board : Board)
        (calls : List Call), nearest 640 480 = initialMode →
          UsableThroughout par nearest board calls := by
  intro h
  obtain ⟨⟨⟨f, hok⟩, -⟩, -⟩ :=
    h ⟨600, 0⟩ (fun _ _ => initialMode) plainBoard [] rfl
  rw [setFormat_refused _ (by decide)] at hok
  cases hok

end Ov7251
end SurfaceCameras
