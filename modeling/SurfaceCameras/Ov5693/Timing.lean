import SurfaceCameras.Ov5693.Coherence

/-!
# Exposure, blanking and format of the OV5693 driver

The exposure range follows the frame length, through the control callback of
the vertical blanking and through `ov5693_set_fmt`.  With the default crop
rectangle every call leaves exposure, vertical blanking and format in step.
The horizontal blanking has no case in the callback, so a device in use refuses
the one of a new width.
-/

namespace SurfaceCameras
namespace Ov5693

open Kernel Device FixedWidth Runs

/-- Exposure, blanking and format belong to one frame. -/
structure InStep (d : Device) : Prop where
  exposure_max : d.exposure.maximum =
    d.mode.format.height + d.vblank.cur - integrationTimeMargin
  exposure_pos : 1 ≤ d.exposure.cur
  exposure_le : d.exposure.cur ≤ d.exposure.maximum
  vblank_ge : timingMinVts ≤ d.vblank.cur
  vblank_le : d.vblank.cur ≤ (timingMaxVts : ℤ) - d.mode.format.height
  hblank_eq : d.hblank.cur = (fixedPpl : ℤ) - d.mode.format.width
  width_eq : d.mode.format.width =
    d.mode.crop.width / binningRatio d.mode.binningX
  height_eq : d.mode.format.height =
    d.mode.crop.height / binningRatio d.mode.binningY

/-- The call selects no crop rectangle for the active state. -/
def KeepsCrop : Call → Prop
  | .setSelection .active .crop _ => False
  | _ => True

/-- A format call on a device in use asks for the horizontal binning in
force. -/
def KeepsLine (s : System) : Call → Prop
  | .setFmt .active w _ =>
      s.dev.pm.InUse →
        ((align w 2).toNat ≤ 1728 ↔ s.dev.mode.binningX = true)
  | _ => True

/-! ## The exposure control -/

/-- An exposure range that starts at one line, with a value that was
applied. -/
structure Exposable (c : Ctrl) : Prop where
  settled : c.Settled
  minimum : c.minimum = 1
  step : c.step = 1

theorem Exposable.applied {c : Ctrl} (hc : Exposable c) (v : ℤ) :
    Exposable (c.applied v) :=
  have hrange : c.minimum ≤ c.maximum :=
    le_trans hc.settled.min_le hc.settled.le_max
  ⟨Ctrl.applied_settled hrange v, hc.minimum, hc.step⟩

/-- The exposure control with its range cut or extended to `m` lines. -/
def limited (m : ℤ) (c : Ctrl) : Ctrl :=
  (c.withRange 1 m 1 (min c.cur m)).applied c.cur

theorem limited_exposable {c : Ctrl} {m : ℤ} (hm : 1 ≤ m) :
    Exposable (limited m c) :=
  ⟨Ctrl.applied_settled (c := c.withRange 1 m 1 (min c.cur m)) hm c.cur,
    rfl, rfl⟩

theorem eq_of_butExposure {d d' : Device}
    (h : d'.butExposure = d.butExposure) :
    d' = { d with exposure := d'.exposure } := by
  have hrest := congrArg (fun x : Device => { x with exposure := d'.exposure }) h
  exact hrest

/-- A range of at least one line is stored. -/
theorem limitExposure_eq {d : Device} (hd : Exposable d.exposure) {m : ℤ}
    (hm : 1 ≤ m) :
    (limitExposureEffect m d).1 =
      { d with exposure := limited m d.exposure } := by
  have hle := hd.settled.min_le
  rw [hd.minimum] at hle
  have hr : Ctrl.RangeOk d.exposure.minimum m d.exposure.step
      (min d.exposure.val m) := by
    rw [hd.minimum, hd.step, hd.settled.val_eq, Ctrl.RangeOk]
    omega
  have hexp : (limitExposureEffect m d).1.exposure = limited m d.exposure := by
    have hget := get_modifyRangeEffect (c := exposureField)
      (e := applyCtrlEffect .exposure) (Fixes.emit _) hr d
    refine hget.trans ?_
    simp only [limited, exposureField, hd.minimum, hd.step, hd.settled.val_eq]
  rw [eq_of_butExposure (limitExposure_fixes m d), hexp]

/-- Whatever the range asked for, the control stays as it should be. -/
theorem limitExposure_maintains (m : ℤ) :
    Maintains (fun d => Exposable d.exposure) (limitExposureEffect m) := by
  intro d hd
  by_cases hm : 1 ≤ m
  · rw [limitExposure_eq hd hm]
    exact limited_exposable hm
  · have hr : ¬ Ctrl.RangeOk d.exposure.minimum m d.exposure.step
        (min d.exposure.val m) := by
      rw [hd.minimum]
      exact fun h => hm h.2.1
    have hsame : limitExposureEffect m d = (d, []) := by
      unfold limitExposureEffect modifyRangeEffect
      rw [if_neg hr]
    rw [hsame]
    exact hd

theorem sCtrl_maintains (id : CtrlId) :
    Maintains (fun d => Exposable d.exposure) (sCtrlEffect id) := by
  unfold sCtrlEffect
  split
  · exact Maintains.seq (fun d hd => limitExposure_maintains _ d hd)
      (Maintains.emit _)
  · exact Maintains.emit _

theorem setVblank_maintains :
    Maintains (fun d => Exposable d.exposure)
      (setCtrlEffect vblankField (sCtrlEffect .vblank)) := by
  intro d hd
  unfold setCtrlEffect
  split
  · exact hd
  · exact sCtrl_maintains .vblank (vblankField.update Ctrl.validateNew d) hd

theorem vblankEffect_maintains (height : ℕ) :
    Maintains (fun d => Exposable d.exposure) (vblankEffect height) := by
  intro d hd
  refine setVblank_maintains _ ?_
  change Exposable (modifyRangeEffect vblankField (sCtrlEffect .vblank)
    timingMinVts (timingMaxVts - height) 1 (2078 - height) d).1.exposure
  unfold modifyRangeEffect
  split
  · exact setVblank_maintains (vblankField.update _ d) hd
  · exact hd

/-! ## Streaming -/

/-- A start or stop of the stream keeps what the power, the references and
setting up one control keep. -/
theorem sStream_maintains {P : Device → Prop}
    (hpower : ∀ f d, P d → P (powerField.update f d))
    (hpm : ∀ f d, P d → P (pmField.update f d))
    (hsetup : ∀ id d, P d →
      P (sCtrlEffect id ((ctrlField id).update Ctrl.curToNew d)).1)
    (binnedYOffset : ℤ) (enable : Bool) :
    Maintains P (sStreamEffect binnedYOffset enable) := by
  cases enable with
  | true =>
      have hresume : Maintains P (resumeEffect binnedYOffset) :=
        Maintains.seq (Maintains.silent (hpower _)) (Maintains.emit _)
      have hhandler : Maintains P handlerEffect := by
        apply Maintains.handlerSetup
        intro x hx
        obtain ⟨id, -, rfl⟩ := List.mem_map.mp hx
        exact hsetup id
      exact (Maintains.resumeAndGet hpm hresume).seq
        (hhandler.seq (Maintains.emit _))
  | false => exact (Maintains.emit _).seq (Maintains.silent (hpm _))

/-! ## Exposure and vertical blanking -/

/-- The exposure range goes with the vertical blanking, and both go with the
height of the format. -/
structure Framed (d : Device) : Prop where
  height_ge : 9 ≤ d.mode.format.height
  exposable : Exposable d.exposure
  exposure_max : d.exposure.maximum =
    d.mode.format.height + d.vblank.cur - integrationTimeMargin
  vblank_settled : d.vblank.Settled
  vblank_minimum : d.vblank.minimum = timingMinVts
  vblank_maximum : d.vblank.maximum =
    (timingMaxVts : ℤ) - d.mode.format.height

namespace Framed

variable {d : Device} (hd : Framed d)
include hd

theorem exposureMax_pos {v : ℤ} (hv : timingMinVts ≤ v) :
    1 ≤ (d.mode.format.height : ℤ) + v - integrationTimeMargin := by
  have hheight := hd.height_ge
  simp only [timingMinVts] at hv
  simp only [integrationTimeMargin]
  omega

/-- The control callback changes nothing but the default of the exposure
range. -/
theorem sCtrl (id : CtrlId) : Framed (sCtrlEffect id d).1 := by
  by_cases hid : id = .vblank
  · subst hid
    have hge := hd.vblank_settled.min_le
    rw [hd.vblank_minimum] at hge
    have hpos := hd.exposureMax_pos hge
    have hval := hd.vblank_settled.val_eq
    have heq : (sCtrlEffect .vblank d).1 = (limitExposureEffect
        (d.mode.format.height + d.vblank.val - integrationTimeMargin) d).1 :=
      rfl
    rw [heq, hval, limitExposure_eq hd.exposable hpos]
    exact
      { hd with
        exposable := limited_exposable hpos
        exposure_max := rfl }
  · have heq : (sCtrlEffect id d).1 = d := by
      unfold sCtrlEffect
      rw [if_neg hid]
      rfl
    rw [heq]
    exact hd

theorem curToNew (id : CtrlId) :
    Framed ((ctrlField id).update Ctrl.curToNew d) := by
  cases id with
  | exposure =>
      have heq := Ctrl.curToNew_eq hd.exposable.settled.val_eq
      have hfield : (ctrlField .exposure).update Ctrl.curToNew d = d := by
        change { d with exposure := d.exposure.curToNew } = d
        rw [heq]
      rw [hfield]
      exact hd
  | vblank =>
      have heq := Ctrl.curToNew_eq hd.vblank_settled.val_eq
      have hfield : (ctrlField .vblank).update Ctrl.curToNew d = d := by
        change { d with vblank := d.vblank.curToNew } = d
        rw [heq]
      rw [hfield]
      exact hd
  | analogueGain | digitalGain | hflip | vflip | hblank | testPattern =>
      exact { hd with }

end Framed

theorem sStream_framed (binnedYOffset : ℤ) (enable : Bool) :
    Maintains Framed (sStreamEffect binnedYOffset enable) := by
  apply sStream_maintains
  · exact fun _ _ hd => { hd with }
  · exact fun _ _ hd => { hd with }
  · exact fun id _ hd => (hd.curToNew id).sCtrl id

/-! ## Control writes -/

theorem update_update (id : CtrlId) (f g : Ctrl → Ctrl) (d : Device) :
    (ctrlField id).update g ((ctrlField id).update f d) =
      (ctrlField id).update (g ∘ f) d := by
  cases id <;> rfl

/-- A control whose callback only writes the sensor holds the value set. -/
theorem setEffect_eq {id : CtrlId} (hv : id ≠ .vblank) (v : ℤ) (d : Device) :
    (setCtrlEffect (ctrlField id) (sCtrlEffect id)
      ((ctrlField id).update (fun c => { c with val := v }) d)).1 =
        (ctrlField id).update (fun c => c.applied v) d := by
  have hcb : sCtrlEffect id = applyCtrlEffect id := if_neg hv
  unfold setCtrlEffect
  rw [hcb, Field.get_update]
  split
  · next hsame =>
      rw [update_update]
      have happlied := Ctrl.applied_of_unchanged (c := (ctrlField id).get d)
        (v := v) hsame
      unfold Field.update
      exact congrArg ((ctrlField id).set d) happlied.symm
  · exact (update_update id _ _ _).trans (update_update id _ _ d)

theorem writeEffect_eq {id : CtrlId} (hv : id ≠ .vblank) (v : ℤ) (d : Device) :
    (writeEffect id v d).1 =
      (ctrlField id).update (fun c => c.written (ctrlType id) v) d := by
  unfold writeEffect
  cases h : ((ctrlField id).get d).stdValidate v (ctrlType id) with
  | some w =>
      rw [writeCtrlEffect_of_some h, setEffect_eq hv]
      exact Field.update_congr _ (Ctrl.written_of_some h).symm
  | none =>
      have hsame := Field.update_congr (ctrlField id)
        (f := fun c => c.written (ctrlType id) v) (g := fun c => c)
          (Ctrl.written_of_none h)
      rw [writeCtrlEffect_of_none h, hsame]
      cases id <;> rfl

/-- Writing the vertical blanking. -/
theorem writeVblank_framed (v : ℤ) {d : Device} (hd : Framed d) :
    Framed (writeEffect .vblank v d).1 := by
  have hrange : d.vblank.minimum ≤ d.vblank.maximum :=
    le_trans hd.vblank_settled.min_le hd.vblank_settled.le_max
  have hsettled := Ctrl.applied_settled hrange v
  have hge : timingMinVts ≤ (d.vblank.applied v).cur := by
    rw [← hd.vblank_minimum]
    exact le_clamp hrange
  have hpos := hd.exposureMax_pos hge
  by_cases hsame : (d.vblank.applied v).cur = d.vblank.cur
  · have heq : (writeEffect .vblank v d).1 =
        { d with vblank := d.vblank.applied v } := by
      rw [Ctrl.applied_of_unchanged hsame]
      exact congrArg Prod.fst (if_pos hsame)
    rw [heq]
    exact
      { hd with
        exposure_max := by rw [hd.exposure_max, ← hsame]
        vblank_settled := hsettled }
  · let d₁ : Device :=
      { d with vblank := { d.vblank with val := v }.validateNew }
    have hlimit := limitExposure_eq (d := d₁) hd.exposable hpos
    have heq : (writeEffect .vblank v d).1 =
        vblankField.update Ctrl.newToCur (limitExposureEffect
          (d.mode.format.height + (d.vblank.applied v).cur -
            integrationTimeMargin) d₁).1 :=
      congrArg Prod.fst (if_neg hsame)
    rw [heq, hlimit]
    exact
      { hd with
        exposable := limited_exposable hpos
        exposure_max := rfl
        vblank_settled := hsettled }

theorem write_framed (id : CtrlId) (v : ℤ) :
    Maintains Framed (writeEffect id v) := by
  intro d hd
  by_cases hv : id = .vblank
  · subst hv
    exact writeVblank_framed v hd
  · rw [writeEffect_eq hv]
    cases id with
    | vblank => exact absurd rfl hv
    | exposure => exact { hd with exposable := hd.exposable.applied v }
    | analogueGain | digitalGain | hflip | vflip | hblank | testPattern =>
        exact { hd with }

theorem write_mode (id : CtrlId) (v : ℤ) :
    Fixes Device.mode (writeEffect id v) := by
  have hupdate : ∀ (g : Ctrl → Ctrl) (d : Device),
      ((ctrlField id).update g d).mode = d.mode := by
    intro g d
    cases id <;> rfl
  exact Fixes.writeCtrl hupdate ((sCtrl_fixes id).map Device.mode) (ctrlType id) v

/-! ## Format calls -/

/-- The last step of a format call sets the exposure range of the new frame. -/
theorem limitExposure_framed {d : Device} (hexp : Exposable d.exposure)
    (hge : 9 ≤ d.mode.format.height) (hle : d.mode.format.height ≤ 1956)
    (hvblank : d.vblank = Ctrl.newStd timingMinVts
      ((timingMaxVts : ℤ) - d.mode.format.height) 1
      (2078 - d.mode.format.height)) :
    Framed (limitExposureEffect (2078 - integrationTimeMargin) d).1 := by
  rw [limitExposure_eq hexp (by decide)]
  refine ⟨hge, limited_exposable (by decide), ?_, ?_, ?_, ?_⟩
  · simp only [hvblank, limited, Ctrl.applied, Ctrl.withRange, Ctrl.newStd]
    omega
  · simp only [hvblank]
    apply Ctrl.newStd_settled
    simp only [Ctrl.RangeOk, timingMinVts, timingMaxVts]
    omega
  · simp only [hvblank, Ctrl.newStd]
  · simp only [hvblank, Ctrl.newStd]

/-- A format call leaves exposure and blanking in step with any frame of at
least nine lines, whatever the crop rectangle. -/
theorem activeFmt_framed (w h : BitVec 32) {d : Device}
    (hexp : Exposable d.exposure) (hcrop : 2 ≤ d.mode.crop.height)
    (hmax : d.mode.crop.height ≤ 1956)
    (hge : 9 ≤ (activeFmtEffect w h d).1.mode.format.height) :
    Framed (activeFmtEffect w h d).1 := by
  let hratio := ratioOf d.mode.crop.width minCropWidth w
  let vratio := ratioOf d.mode.crop.height minCropHeight h
  let width := d.mode.crop.width / hratio
  let height := d.mode.crop.height / vratio
  let d₀ := formatMode hratio vratio
    ((padState .active).update (formattedPad w h) d)
  let d₁ := (vblankEffect height d₀).1
  let d₂ := (hblankEffect (fixedPpl - width) d₁).1
  have hle : height ≤ 1956 := (div_ratioOf_bounds minCropHeight h hcrop hmax).2
  have heq : (activeFmtEffect w h d).1 =
      (limitExposureEffect (2078 - integrationTimeMargin) d₂).1 :=
    formatEffect_eq hratio vratio width height
      ((padState .active).update (formattedPad w h) d)
  have hmode : d₂.mode.format.height = height :=
    congrArg (fun m : Mode => m.format.height)
      ((hblankEffect_fixes (f := Device.mode) (fun _ _ => rfl) _ d₁).trans
        (congrArg Prod.fst (vblankEffect_lineState height d₀)))
  have hvblank : d₂.vblank = _ :=
    (hblankEffect_fixes (f := Device.vblank) (fun _ _ => rfl) _ d₁).trans
      (vblankEffect_get hle d₀)
  have hexp₂ : d₂.exposure = d₁.exposure :=
    hblankEffect_fixes (f := Device.exposure) (fun _ _ => rfl) _ d₁
  have hsame : (limitExposureEffect (2078 - integrationTimeMargin)
      d₂).1.mode = d₂.mode :=
    congrArg Readout.mode (limitExposure_readout _ d₂)
  rw [heq, hsame] at hge
  rw [heq]
  apply limitExposure_framed
  · rw [hexp₂]
    exact vblankEffect_maintains height d₀ hexp
  · exact hge
  · rw [hmode]
    exact hle
  · rw [hmode]
    exact hvblank

/-! ## States in step but for the horizontal blanking -/

/-- The exposure and the vertical blanking are in step with the format, and
the crop rectangle is the default one. -/
structure Timed (d : Device) : Prop where
  crop : d.mode.crop = defaultCrop
  width_eq : d.mode.format.width =
    activeWidth / binningRatio d.mode.binningX
  height_eq : d.mode.format.height =
    activeHeight / binningRatio d.mode.binningY
  exposable : Exposable d.exposure
  exposure_max : d.exposure.maximum =
    d.mode.format.height + d.vblank.cur - integrationTimeMargin
  vblank_settled : d.vblank.Settled
  vblank_minimum : d.vblank.minimum = timingMinVts
  vblank_maximum : d.vblank.maximum =
    (timingMaxVts : ℤ) - d.mode.format.height

namespace Timed

variable {d : Device} (hd : Timed d)
include hd

theorem inStep_iff :
    InStep d ↔ d.hblank.cur = (fixedPpl : ℤ) - d.mode.format.width := by
  constructor
  · exact fun h => h.hblank_eq
  · intro h
    have hpos := hd.exposable.settled.min_le
    rw [hd.exposable.minimum] at hpos
    have hge := hd.vblank_settled.min_le
    rw [hd.vblank_minimum] at hge
    have hle := hd.vblank_settled.le_max
    rw [hd.vblank_maximum] at hle
    refine ⟨hd.exposure_max, hpos, hd.exposable.settled.le_max, hge, hle, h,
      ?_, ?_⟩
    · rw [hd.crop]
      exact hd.width_eq
    · rw [hd.crop]
      exact hd.height_eq

theorem height_ge : 972 ≤ d.mode.format.height := by
  rw [hd.height_eq]
  cases d.mode.binningY <;> decide

theorem framed : Framed d :=
  { hd with height_ge := le_trans (by decide) hd.height_ge }

theorem of_framed {d' : Device} (h : Framed d') (hmode : d'.mode = d.mode) :
    Timed d' :=
  { h with
    crop := hmode ▸ hd.crop
    width_eq := hmode ▸ hd.width_eq
    height_eq := hmode ▸ hd.height_eq }

theorem crop_width : d.mode.crop.width = activeWidth := by
  rw [hd.crop]
  rfl

theorem crop_height : d.mode.crop.height = activeHeight := by
  rw [hd.crop]
  rfl

end Timed

theorem sStream_timed (binnedYOffset : ℤ) (enable : Bool) :
    Maintains Timed (sStreamEffect binnedYOffset enable) := fun d hd =>
  hd.of_framed (sStream_framed binnedYOffset enable d hd.framed)
    (congrArg Readout.mode (sStream_fixes binnedYOffset enable d))

theorem write_timed (id : CtrlId) (v : ℤ) :
    Maintains Timed (writeEffect id v) := fun d hd =>
  hd.of_framed (write_framed id v d hd.framed) (write_mode id v d)

/-- Every format call on the default crop rectangle restores the step of
exposure, blanking and format. -/
theorem activeFmt_timed (w h : BitVec 32) {d : Device} (hd : Timed d) :
    Timed (activeFmtEffect w h d).1 := by
  have hcrop : d.mode.crop.height = 1944 := hd.crop_height
  have hmode : (activeFmtEffect w h d).1.mode = _ :=
    congrArg Readout.mode (activeFmtEffect_readout w h
      (by omega : 2 ≤ d.mode.crop.height) (by omega))
  have hwidth : (activeFmtEffect w h d).1.mode.format.width =
      activeWidth / binningRatio (activeFmtEffect w h d).1.mode.binningX := by
    rw [hmode, ← hd.crop_width]
    simp only [formattedReadout, MbusFramefmt.sized,
      binningRatio_of_ratio (ratioOf_mem d.mode.crop.width minCropWidth w)]
  have hheight : (activeFmtEffect w h d).1.mode.format.height =
      activeHeight / binningRatio (activeFmtEffect w h d).1.mode.binningY := by
    rw [hmode, ← hd.crop_height]
    simp only [formattedReadout, MbusFramefmt.sized,
      binningRatio_of_ratio (ratioOf_mem d.mode.crop.height minCropHeight h)]
  have hge : 9 ≤ (activeFmtEffect w h d).1.mode.format.height := by
    rw [hheight]
    cases (activeFmtEffect w h d).1.mode.binningY <;> decide
  have hframed := activeFmt_framed w h hd.exposable (by omega) (by omega) hge
  exact
    { hframed with
      crop := (congrArg Mode.crop hmode).trans hd.crop
      width_eq := hwidth
      height_eq := hheight }

/-! ## Runs -/

/-- The binned width is the one closer to a request of at most 1728. -/
theorem ratioOf_width (w : BitVec 32) :
    ratioOf activeWidth minCropWidth w =
      if (align w 2).toNat ≤ 1728 then 2 else 1 := by
  have heven := align_two_toNat_even w
  unfold ratioOf
  generalize (align w 2).toNat = x at heven ⊢
  have hlo : 2 ≤ clamp x 2 2592 := le_clamp (by decide)
  have hhi : clamp x 2 2592 ≤ 2592 := clamp_le (by decide)
  have hsize : (clamp x 2 2592 ≤ 1728 ↔ x ≤ 1728) ∧ clamp x 2 2592 % 2 = 0 := by
    unfold clamp
    split
    · omega
    · split <;> omega
  change clamp ((2592 + clamp x 2 2592 / 2) % 2 ^ 32 / clamp x 2 2592) 1 2 = _
  revert hlo hhi hsize
  generalize clamp x 2 2592 = size
  rintro hlo hhi ⟨hsize, hmod⟩
  rw [Nat.mod_eq_of_lt (by omega)]
  split
  · next hx =>
      have hquot : 2 ≤ (2592 + size / 2) / size := by
        rw [Nat.le_div_iff_mul_le (by omega)]
        omega
      exact if_pos hquot
  · next hx =>
      have hquot : (2592 + size / 2) / size = 1 := by
        apply Nat.div_eq_of_lt_le <;> omega
      rw [hquot]
      rfl

/-- A call that reaches a device out of use, or asks for the binning in force,
keeps the width of the line. -/
theorem activeFmt_line_iff (w h : BitVec 32) {d : Device} (hd : Timed d)
    (hline : d.hblank.cur = (fixedPpl : ℤ) - d.mode.format.width) :
    (activeFmtEffect w h d).1.hblank.cur =
        (fixedPpl : ℤ) - (activeFmtEffect w h d).1.mode.format.width ↔
      (d.pm.InUse →
        ((align w 2).toNat ≤ 1728 ↔ d.mode.binningX = true)) := by
  have hwidth := hd.crop_width
  have hheight : d.mode.crop.height = 1944 := hd.crop_height
  have hread := activeFmtEffect_readout w h
    (by omega : 2 ≤ d.mode.crop.height) (by omega)
  have hblank := congrArg Readout.hblank hread
  have hmode := congrArg (fun r : Readout => r.mode.format.width) hread
  simp only [Device.readout] at hblank hmode
  rw [hblank, hmode]
  simp only [formattedReadout, MbusFramefmt.sized, hwidth, ratioOf_width, hline,
    hd.width_eq]
  by_cases huse : d.pm.InUse
  · have hfull : activeWidth / 1 = 2592 := rfl
    have hbinned : activeWidth / 2 = 1296 := rfl
    simp only [huse, or_true, if_true, true_implies]
    cases d.mode.binningX with
    | false =>
        simp only [binningRatio, Bool.false_eq_true, if_false, iff_false]
        split
        · rw [hfull, hbinned]
          omega
        · omega
    | true =>
        simp only [binningRatio, if_true, iff_true]
        split
        · omega
        · rw [hfull, hbinned]
          omega
  · simp only [huse, or_false, false_implies, iff_true]
    exact ite_eq_right_iff.mpr id

/-- What every run keeps: states in step but for the horizontal blanking. -/
structure TimedSystem (s : System) : Prop extends CropsInArray s where
  timed : Timed s.dev

section Parameters

variable (binnedYOffset : ℤ)

/-- One call keeps exposure, vertical blanking and format in step. -/
theorem step_timed {s : System} (hs : TimedSystem s) {c : Call}
    (hc : KeepsCrop c) : Timed (step binnedYOffset s c).dev := by
  apply step_dev binnedYOffset (P := Timed) hs.toCropsInArray hs.timed
  · intro which w h _ _
    cases which with
    | active => exact activeFmt_timed w h hs.timed
    | try_ i => exact { hs.timed with }
  · intro which r hcall
    cases which with
    | active =>
        rw [hcall] at hc
        exact absurd hc id
    | try_ i => exact { hs.timed with }
  · exact fun id v _ _ => write_timed id v s.dev hs.timed
  · exact fun enable => sStream_timed binnedYOffset enable s.dev hs.timed
  · exact { hs.timed with }
  · exact { hs.timed with }

theorem keepsLine_of_readout {s : System} {c : Call} (hc : KeepsReadout c) :
    KeepsLine s c := by
  unfold KeepsLine
  split
  · exact hc.elim
  · exact trivial

/-- One call leaves the horizontal blanking in step exactly if it is one of
`KeepsLine`. -/
theorem step_line_iff {s : System} (hs : TimedSystem s)
    (hline : s.dev.hblank.cur = (fixedPpl : ℤ) - s.dev.mode.format.width)
    {c : Call} (hc : KeepsCrop c) :
    (step binnedYOffset s c).dev.hblank.cur =
        (fixedPpl : ℤ) - (step binnedYOffset s c).dev.mode.format.width ↔
      KeepsLine s c := by
  have hsame : ∀ {d : Device} {tries}, d.readout =
      { s.dev.readout with tries := tries } →
        d.hblank.cur = (fixedPpl : ℤ) - d.mode.format.width := by
    intro d tries heq
    have hblank : d.hblank.cur = s.dev.hblank.cur := congrArg Readout.hblank heq
    have hmode : d.mode = s.dev.mode := congrArg Readout.mode heq
    rw [hblank, hmode]
    exact hline
  obtain hkeep | ⟨w, h, rfl⟩ | ⟨r, rfl⟩ | ⟨v, rfl⟩ := keepsReadout_cases c
  · obtain ⟨tries, hread⟩ := step_readout binnedYOffset hs.toCropsInArray hkeep
    exact iff_of_true (hsame hread) (keepsLine_of_readout hkeep)
  · obtain ⟨hempty, -⟩ | ⟨-, fmt, hrun⟩ :=
      setFmt_cases .active w h hs.toCropsInArray
    · have hcrop : s.dev.crops .active = defaultCrop := hs.timed.crop
      rw [hcrop] at hempty
      exact absurd (defaultCrop_inArray.usable (by decide) (by decide)) hempty
    · rw [step, hrun]
      exact activeFmt_line_iff w h hs.timed hline
  · exact absurd hc id
  · have hid : CtrlId.vblank ≠ .hblank := by decide
    rw [step, writeControl_after hid v hs.clean, Machine.after_dev]
    have hread := writeVblank_readout v s.dev
    have hblank := congrArg Readout.hblank hread
    have hmode := congrArg Readout.mode hread
    simp only [Device.readout] at hblank hmode
    rw [hblank, hmode]
    exact iff_true_intro hline

theorem step_timedSystem {s : System} (hs : TimedSystem s) {c : Call}
    (hc : KeepsCrop c) : TimedSystem (step binnedYOffset s c) :=
  ⟨step_cropsInArray binnedYOffset hs.toCropsInArray c,
    step_timed binnedYOffset hs hc⟩

theorem probedDevice_timed : Timed probedDevice := by
  refine ⟨rfl, rfl, rfl, ⟨?_, rfl, rfl⟩, rfl, ?_, rfl, rfl⟩
  · exact Ctrl.newStd_settled (by decide)
  · exact Ctrl.newStd_settled (by decide)

theorem probe_timed (regs : ℕ → BitVec 8) : TimedSystem (probe regs) := by
  refine ⟨probe_cropsInArray regs, ?_⟩
  rw [probe_eq]
  exact probedDevice_timed

/-- With the default crop rectangle a run stays in step exactly if each format
call that finds the device in use keeps the horizontal binning. -/
theorem inStep_throughout_iff (regs : ℕ → BitVec 8) (calls : List Call)
    (hcrop : ∀ c ∈ calls, KeepsCrop c) :
    Throughout (step binnedYOffset) (fun s => InStep s.dev) (probe regs)
        calls ↔
      Along (step binnedYOffset) KeepsLine (probe regs) calls := by
  apply throughout_iff_along_of (I := TimedSystem) (A := fun _ c => KeepsCrop c)
  · intro s c hs _ hc
    exact step_timedSystem binnedYOffset hs hc
  · intro s c hs hin hc
    rw [(step_timed binnedYOffset hs hc).inStep_iff]
    exact step_line_iff binnedYOffset hs (hs.timed.inStep_iff.mp hin) hc
  · exact probe_timed regs
  · rw [(probe_timed regs).timed.inStep_iff, probe_eq]
    rfl
  · exact along_of_forall hcrop _

end Parameters

/-- Binning the sensor before it streams keeps it in step. -/
theorem inStep_throughout_binned :
    Throughout (step 2) (fun s => InStep s.dev) (probe fun _ => 0)
      [.setFmt .active 1296 972, .sStream true] := by
  have hcrop : ∀ c ∈ [Call.setFmt .active 1296 972, .sStream true],
      KeepsCrop c := by
    intro c hc
    rcases List.mem_cons.mp hc with rfl | hc
    · trivial
    · rw [List.mem_singleton.mp hc]
      trivial
  refine (inStep_throughout_iff 2 (fun _ => 0) _ hcrop).mpr ⟨?_, trivial, trivial⟩
  exact fun huse => absurd huse.2 (by decide)

/-- Binning the sensor while it streams leaves the horizontal blanking of the
full width. -/
theorem inStep_fails :
    ¬ ∀ (binnedYOffset : ℤ) (regs : ℕ → BitVec 8) (calls : List Call),
      (∀ c ∈ calls, KeepsCrop c) →
        Throughout (step binnedYOffset) (fun s => InStep s.dev) (probe regs)
          calls := by
  intro h
  have hlast := (h 2 (fun _ => 0) [.sStream true, .setFmt .active 1296 972]
    ?_).last.hblank_eq
  · revert hlast
    decide +kernel
  · intro c hc
    rcases List.mem_cons.mp hc with rfl | hc
    · trivial
    · rw [List.mem_singleton.mp hc]
      trivial

end Ov5693
end SurfaceCameras
