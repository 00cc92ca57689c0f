import SurfaceCameras.Ov5693.Streaming

/-!
# What the OV5693 driver does when every transfer succeeds

Each function of the driver is a change of the driver's state together with a
list of masked register writes.  The changes are independent of what the
registers hold: a read-modify-write access is a masked write.
-/

namespace SurfaceCameras
namespace Ov5693

open Kernel Device MaskedWrites

/-! ## Controls -/

/-- The register writes of `ov5693_s_ctrl` for one control. -/
def ctrlWrites (id : CtrlId) (mode : Mode) (val : ℤ) : List MaskedWrite :=
  match id with
  | .exposure =>
      bytesAt exposureCtrlReg
        (bigEndian 3 ((BitVec.ofInt 32 val <<< 4) &&& 0xffff0#32).toNat)
  | .analogueGain =>
      bytesAt gainCtrlReg
        (bigEndian 2 ((BitVec.ofInt 32 val <<< 4) &&& 0x7f0#32).toNat)
  | .digitalGain =>
      let gain := bigEndian 2 (BitVec.ofInt 32 val &&& 0xfff#32).toNat
      bytesAt mwbRedGainReg gain ++
        (bytesAt mwbGreenGainReg gain ++ bytesAt mwbBlueGainReg gain)
  | .hflip =>
      ⟨format2Reg, flipHorzMask, if val != 0 then 0 else flipHorzMask⟩ ::
        bytesAt offsetStartXReg (bigEndian 2 (offsetStartX mode (val != 0)))
  | .vflip =>
      [⟨format1Reg, flipVertMask,
        if val != 0 then flipVertBits mode else 0⟩]
  | .vblank =>
      bytesAt timingVtsReg (bigEndian 2 (mode.format.height + val))
  | .testPattern =>
      bytesAt testPatternReg
        (bigEndian 1 (testPatternBits.getD val.toNat 0).toNat)
  | .hblank => []

theorem writeCtrl_performs {id : CtrlId} (hid : id ≠ .hblank) (val : ℤ) :
    Performs (writeCtrl id val)
      (Effect.emit fun d => ctrlWrites id d.mode val) := by
  cases id with
  | hblank => exact absurd rfl hid
  | exposure | analogueGain | testPattern => exact cciWrite_performs _ _ _
  | digitalGain =>
      exact (cciWrite_performs _ _ _).seq
        ((cciWrite_performs _ _ _).seq (cciWrite_performs _ _ _))
  | hflip =>
      exact (cciUpdateBits_performs _ _ _).seq
        (Performs.gets Device.mode fun _ => cciWrite_performs _ _ _)
  | vflip =>
      exact Performs.gets Device.mode fun _ => cciUpdateBits_performs _ _ _
  | vblank =>
      have h : ∀ height : ℕ, Performs
          (cciWrite timingVtsReg 2 ((height : ℤ) + val) : Prog System Fault Unit)
          (Effect.emit fun _ =>
            bytesAt timingVtsReg (bigEndian 2 ((height : ℤ) + val))) :=
        fun height => cciWrite_performs _ _ _
      exact Performs.gets (fun d : Device => d.mode.format.height) h

/-- The second half of `ov5693_s_ctrl`. -/
def applyCtrlEffect (id : CtrlId) : Effect Device :=
  Effect.emit fun d =>
    if d.pm.InUse then ctrlWrites id d.mode ((ctrlField id).get d).val else []

theorem get_put_of_inUse {d : Device} (h : d.pm.InUse) :
    pmField.update RuntimePm.put (pmField.update RuntimePm.get d) = d := by
  simp only [Field.update, pmField, RuntimePm.put_get_of_inUse h]

theorem get_get (id : CtrlId) (f : RuntimePm → RuntimePm) (d : Device) :
    (ctrlField id).get (pmField.update f d) = (ctrlField id).get d := by
  cases id <;> rfl

theorem applyCtrlEffect_of_inUse {d : Device} (h : d.pm.InUse)
    (id : CtrlId) :
    applyCtrlEffect id d =
      (d, ctrlWrites id d.mode ((ctrlField id).get d).val) := by
  simp only [applyCtrlEffect, Effect.emit, if_pos h]

theorem applyCtrlEffect_of_not {d : Device} (h : ¬ d.pm.InUse)
    (id : CtrlId) : applyCtrlEffect id d = (d, []) := by
  simp only [applyCtrlEffect, Effect.emit, if_neg h]

theorem applyCtrl_of_not {s : System} (h : ¬ s.dev.pm.InUse) (id : CtrlId) :
    applyCtrl id s = (.ok (), s) := by
  unfold applyCtrl
  rw [Prog.bind_ok (pmRuntimeGetIfInUse_of_not pmField.ofDev h)]
  rfl

/-- With the device in use, the value goes to the sensor between taking and
dropping a reference. -/
theorem applyCtrl_of_inUse {s : System} (h : s.dev.pm.InUse) (id : CtrlId) :
    applyCtrl id s =
      Prog.tryFinally (fun _ => false)
        (writeCtrl id ((ctrlField id).get s.dev).val)
        (pmRuntimePut pmField.ofDev)
        (pmField.ofDev.update RuntimePm.get s) := by
  unfold applyCtrl
  rw [Prog.bind_ok (pmRuntimeGetIfInUse_of_inUse pmField.ofDev h)]
  have hctrl := get_get id RuntimePm.get s.dev
  rw [← hctrl]
  rfl

theorem applyCtrl_performs {id : CtrlId} (hid : id ≠ .hblank) :
    Performs (applyCtrl id) (applyCtrlEffect id) := by
  intro s hs
  by_cases huse : s.dev.pm.InUse
  · have hclean : (pmField.ofDev.update RuntimePm.get s).Clean := hs
    rw [applyCtrl_of_inUse huse, applyCtrlEffect_of_inUse huse]
    unfold Prog.tryFinally
    rw [writeCtrl_performs hid _ _ hclean]
    have hpm := get_put_of_inUse huse
    exact congrArg (fun d => (Except.ok (), s.after (d, ctrlWrites id
      s.dev.mode ((ctrlField id).get s.dev).val))) hpm
  · rw [applyCtrl_of_not huse, applyCtrlEffect_of_not huse]
    rfl

theorem applyHblank_of_inUse {s : System} (h : s.dev.pm.InUse) :
    applyCtrl .hblank s = (.error (.errno .einval), s) := by
  rw [applyCtrl_of_inUse h]
  have hpm := get_put_of_inUse h
  exact congrArg (fun d => (Except.error (Fault.errno Errno.einval),
    (⟨d, s.bus⟩ : System))) hpm

/-- The exposure range follows the frame length. -/
def limitExposureEffect (exposureMax : ℤ) : Effect Device := fun d =>
  modifyRangeEffect exposureField (applyCtrlEffect .exposure)
    d.exposure.minimum exposureMax d.exposure.step
    (min d.exposure.val exposureMax) d

theorem limitExposure_performs (exposureMax : ℤ) :
    Performs (limitExposure exposureMax) (limitExposureEffect exposureMax) :=
  Performs.gets Device.exposure fun _ =>
    v4l2CtrlModifyRange_performs (applyCtrl_performs (by decide)) _ _ _ _

/-- `ov5693_s_ctrl`. -/
def sCtrlEffect (id : CtrlId) : Effect Device :=
  if id = .vblank then
    Effect.seq
      (fun d => limitExposureEffect
        (d.mode.format.height + d.vblank.val - integrationTimeMargin) d)
      (applyCtrlEffect .vblank)
  else
    applyCtrlEffect id

theorem sCtrl_of_ne {id : CtrlId} (hv : id ≠ .vblank) :
    sCtrl id = applyCtrl id := by
  unfold sCtrl
  rw [Prog.when_neg hv]
  rfl

theorem sCtrl_performs {id : CtrlId} (hid : id ≠ .hblank) :
    Performs (sCtrl id) (sCtrlEffect id) := by
  unfold sCtrl sCtrlEffect
  by_cases hv : id = .vblank
  · subst hv
    exact (Performs.gets (fun d : Device =>
      (d.mode.format.height : ℤ) + d.vblank.val - integrationTimeMargin)
        limitExposure_performs).seq (applyCtrl_performs hid)
  · rw [Prog.when_neg hv, if_neg hv]
    exact applyCtrl_performs hid

theorem hblank_validateNew (hblank : ℤ) (c : Ctrl) :
    ((c.withRange hblank hblank 1 hblank).curToNew.validateNew).val =
      hblank :=
  FixedWidth.clamp_self_range _ _

/-- A control write from user space. -/
def writeEffect (id : CtrlId) (v : ℤ) : Effect Device :=
  writeCtrlEffect (ctrlField id) (sCtrlEffect id) (ctrlType id) v

theorem writeControl_after {id : CtrlId} (hid : id ≠ .hblank) (v : ℤ)
    {s : System} (hs : s.Clean) :
    (writeControl id v s).2 = s.after (writeEffect id v s.dev) := by
  unfold writeControl
  rw [if_neg hid]
  exact v4l2SCtrl_after (sCtrl_performs hid) (ctrlType id) v hs

/-! ## Formats -/

/-- The new horizontal blanking is refused by a device in use, which keeps its
value; the range is stored all the same. -/
def hblankEffect (hblank : ℤ) : Effect Device := fun d =>
  let d₁ := hblankField.update
    (fun x => (x.withRange hblank hblank 1 hblank).curToNew.validateNew) d
  if d.hblank.cur = hblank ∨ d.pm.InUse then
    (d₁, [])
  else
    (hblankField.update Ctrl.newToCur d₁, [])

theorem setHblank_performs (hblank : ℤ) :
    Performs
      (ignoreErrno
        (v4l2CtrlModifyRange hblankField.ofDev (sCtrl .hblank) hblank hblank 1
          hblank))
      (hblankEffect hblank) := by
  intro s hs
  have hr : Ctrl.RangeOk hblank hblank 1 hblank :=
    ⟨Nat.one_ne_zero, le_refl _, le_refl _, le_refl _⟩
  let range : Ctrl → Ctrl := fun x =>
    (x.withRange hblank hblank 1 hblank).curToNew
  let s₁ : System := hblankField.ofDev.update range s
  have hrun : v4l2CtrlModifyRange hblankField.ofDev (sCtrl .hblank) hblank
      hblank 1 hblank s = setCtrl hblankField.ofDev (applyCtrl .hblank) s₁ := by
    unfold v4l2CtrlModifyRange
    rw [if_pos hr, sCtrl_of_ne (by decide)]
    rfl
  have hval : (hblankField.ofDev.get s₁).validateNew.val = hblank :=
    hblank_validateNew hblank s.dev.hblank
  by_cases hsame : s.dev.hblank.cur = hblank
  · rw [hblankEffect, if_pos (Or.inl hsame)]
    exact Prog.tryCatch_ok (hrun.trans
      (setCtrl_unchanged (hval.trans hsame.symm)))
  · have hchange : (hblankField.ofDev.get s₁).validateNew.val ≠
        (hblankField.ofDev.get s₁).cur := by
      rw [hval]
      exact fun h => hsame h.symm
    by_cases huse : s.dev.pm.InUse
    · rw [hblankEffect, if_pos (Or.inr huse)]
      have huse' : (hblankField.ofDev.update Ctrl.validateNew s₁).dev.pm.InUse :=
        huse
      exact Prog.tryCatch_error (hrun.trans
        (setCtrl_failed hchange (applyHblank_of_inUse huse')))
    · rw [hblankEffect, if_neg (not_or.mpr ⟨hsame, huse⟩)]
      have huse' : ¬ (hblankField.ofDev.update
          Ctrl.validateNew s₁).dev.pm.InUse := huse
      exact Prog.tryCatch_ok (hrun.trans
        (setCtrl_changed hchange (applyCtrl_of_not huse' .hblank)))

/-- The frame length `__ov5693_calc_vts` finds for every height the array has. -/
theorem calcVts_eq {height : ℕ} (hpos : 1 ≤ height) (hle : height ≤ 1956)
    (s : System) : calcVts height s = (.ok 2078, s) := by
  have hlines : pixelRate / fixedPpl = 62380 := by decide
  have hfps : min (FixedWidth.roundDown (62380 / height) 30) 30 = 30 := by
    have hquot : 31 ≤ 62380 / height :=
      (Nat.le_div_iff_mul_le (by omega)).mpr (by omega)
    unfold FixedWidth.roundDown
    omega
  have hdiv : divide (σ := System) 62380 height s =
      (.ok (62380 / height), s) := by
    unfold divide
    rw [if_neg (by omega)]
    rfl
  unfold calcVts
  rw [hlines, Prog.bind_ok hdiv, hfps]
  rfl

/-- The mode that `ov5693_set_fmt` stores. -/
def formatMode (hratio vratio : ℕ) (d : Device) : Device :=
  { d with mode := { d.mode.setBinning hratio vratio with vts := 2078 } }

/-- The part of `ov5693_set_fmt` that only an active format goes through. -/
def formatEffect (hratio vratio width height : ℕ) : Effect Device :=
  (Effect.silent (formatMode hratio vratio)).seq
    ((modifyRangeEffect vblankField (sCtrlEffect .vblank) timingMinVts
        (timingMaxVts - height) 1 (2078 - height)).seq
      (((Effect.silent (vblankField.update fun x =>
            { x with val := 2078 - height })).seq
          (setCtrlEffect vblankField (sCtrlEffect .vblank))).seq
        ((hblankEffect (fixedPpl - width)).seq
          (limitExposureEffect (2078 - integrationTimeMargin)))))

theorem applyFormat_performs (hratio vratio width : ℕ) {height : ℕ}
    (hpos : 1 ≤ height) (hle : height ≤ 1956) :
    Performs (applyFormat hratio vratio width height)
      (formatEffect hratio vratio width height) := by
  have hv : Performs (sCtrl .vblank) (sCtrlEffect .vblank) :=
    sCtrl_performs (by decide)
  have h := (Performs.modify (formatMode hratio vratio)).seq
    ((v4l2CtrlModifyRange_performs (c := vblankField) hv timingMinVts
        (timingMaxVts - height) 1 (2078 - height)).seq
      ((v4l2CtrlSCtrl_performs (c := vblankField) hv
          (2078 - height)).ignoreErrno.seq
        ((setHblank_performs (fixedPpl - width)).seq
          (limitExposure_performs (2078 - integrationTimeMargin)))))
  intro s hs
  refine Eq.trans ?_ (h s hs)
  unfold applyFormat
  rw [Prog.bind_ok (Prog.modify_apply _ s),
    Prog.bind_ok (calcVts_eq hpos hle _)]
  rfl

/-! ## The readout ratio -/

/-- The ratio of an axis whose crop is not empty. -/
def ratioOf (cropSize minSize : ℕ) (requested : BitVec 32) : ℕ :=
  let size := FixedWidth.clamp (FixedWidth.align requested 2).toNat minSize
    cropSize
  FixedWidth.clamp ((cropSize + size / 2) % 2 ^ 32 / size) 1 2

theorem ratioOf_mem (cropSize minSize : ℕ) (requested : BitVec 32) :
    ratioOf cropSize minSize requested = 1 ∨
      ratioOf cropSize minSize requested = 2 := by
  have hlo : 1 ≤ ratioOf cropSize minSize requested :=
    FixedWidth.le_clamp (by decide)
  have hhi : ratioOf cropSize minSize requested ≤ 2 :=
    FixedWidth.clamp_le (by decide)
  omega

theorem clamp_pos {v lo hi : ℕ} (hlo : 0 < lo) (hhi : 0 < hi) :
    0 < FixedWidth.clamp v lo hi := by
  unfold FixedWidth.clamp
  split
  · exact hhi
  · split
    · exact hlo
    · omega

theorem ratio_eq {cropSize minSize : ℕ} (hmin : 0 < minSize)
    (hcrop : 0 < cropSize) (requested : BitVec 32) (s : System) :
    ratio cropSize minSize requested s =
      (.ok (ratioOf cropSize minSize requested), s) := by
  have hsize := clamp_pos (v := (FixedWidth.align requested 2).toNat) hmin hcrop
  unfold ratio divRoundClosest divide
  rw [if_neg (by omega)]
  rfl

theorem ratio_zero (minSize : ℕ) (requested : BitVec 32) (s : System) :
    ratio 0 minSize requested s = (.error .divideError, s) := by
  have hsize : FixedWidth.clamp (FixedWidth.align requested 2).toNat minSize 0
      = 0 := by
    unfold FixedWidth.clamp
    rw [if_pos (Nat.zero_le _)]
  unfold ratio divRoundClosest divide
  rw [if_pos hsize]
  rfl

/-! ## Setting the format -/

/-- The size of the output and the code, stored in a format. -/
def MbusFramefmt.sized (width height : ℕ) (f : MbusFramefmt) : MbusFramefmt :=
  { f with width := width, height := height, code := mediaBusFmtSbggr10 }

/-- The state of a pad after `ov5693_set_fmt`, for a crop that is not
empty. -/
def formattedPad (width height : BitVec 32) (p : PadState) : PadState :=
  { p with
    format := MbusFramefmt.sized
      (p.crop.width / ratioOf p.crop.width minCropWidth width)
      (p.crop.height / ratioOf p.crop.height minCropHeight height) p.format }

/-- Past the two divisions, `ov5693_set_fmt` stores the format and applies an
active one. -/
theorem setFmt_of_pos (which : Which) (width height : BitVec 32) {s : System}
    (hw : 0 < ((padState which).get s.dev).crop.width)
    (hh : 0 < ((padState which).get s.dev).crop.height) :
    setFmt which width height s =
      (do
        Prog.modify ((padState which).ofDev.update (formattedPad width height))
        Prog.when (which = .active)
          (applyFormat
            (ratioOf ((padState which).get s.dev).crop.width minCropWidth width)
            (ratioOf ((padState which).get s.dev).crop.height minCropHeight
              height)
            (((padState which).get s.dev).crop.width /
              ratioOf ((padState which).get s.dev).crop.width minCropWidth
                width)
            (((padState which).get s.dev).crop.height /
              ratioOf ((padState which).get s.dev).crop.height minCropHeight
                height))
        Prog.gets fun s => ((padState which).get s.dev).format :
          Prog System Fault MbusFramefmt) s := by
  unfold setFmt
  rw [Prog.bind_ok (Prog.gets_apply _ s),
    Prog.bind_ok (ratio_eq (by decide) hw width s),
    Prog.bind_ok (ratio_eq (by decide) hh height s)]
  rfl

theorem setFmt_of_empty (which : Which) (width height : BitVec 32) {s : System}
    (h : ((padState which).get s.dev).crop.width = 0 ∨
      ((padState which).get s.dev).crop.height = 0) :
    setFmt which width height s = (.error .divideError, s) := by
  unfold setFmt
  rw [Prog.bind_ok (Prog.gets_apply _ s)]
  rcases Nat.eq_zero_or_pos ((padState which).get s.dev).crop.width with hw | hw
  · rw [hw]
    exact Prog.bind_error (ratio_zero minCropWidth width s)
  · have hh := h.resolve_left (by omega)
    rw [Prog.bind_ok (ratio_eq (by decide) hw width s), hh]
    exact Prog.bind_error (ratio_zero minCropHeight height s)

theorem setFmt_try {i : ℕ} (width height : BitVec 32) {s : System}
    (hw : 0 < (s.dev.tries i).crop.width)
    (hh : 0 < (s.dev.tries i).crop.height) :
    ∃ fmt, setFmt (.try_ i) width height s =
      (.ok fmt, (padState (.try_ i)).ofDev.update
        (formattedPad width height) s) := by
  rw [setFmt_of_pos (.try_ i) width height hw hh]
  exact ⟨_, rfl⟩

/-- The effect of `ov5693_set_fmt` on the active state. -/
def activeFmtEffect (width height : BitVec 32) : Effect Device := fun d =>
  (Effect.silent ((padState .active).update (formattedPad width height))).seq
    (formatEffect
      (ratioOf d.mode.crop.width minCropWidth width)
      (ratioOf d.mode.crop.height minCropHeight height)
      (d.mode.crop.width / ratioOf d.mode.crop.width minCropWidth width)
      (d.mode.crop.height / ratioOf d.mode.crop.height minCropHeight height)) d

theorem div_ratioOf_bounds {cropSize : ℕ} (minSize : ℕ)
    (requested : BitVec 32) (hlo : 2 ≤ cropSize) (hhi : cropSize ≤ 1956) :
    1 ≤ cropSize / ratioOf cropSize minSize requested ∧
      cropSize / ratioOf cropSize minSize requested ≤ 1956 := by
  rcases ratioOf_mem cropSize minSize requested with h | h <;> rw [h] <;> omega

/-- `ov5693_set_fmt` on the active state. -/
theorem setFmt_active (width height : BitVec 32) {s : System} (hs : s.Clean)
    (hw : 0 < s.dev.mode.crop.width) (hh : 2 ≤ s.dev.mode.crop.height)
    (hmax : s.dev.mode.crop.height ≤ 1956) :
    ∃ fmt, setFmt .active width height s =
      (.ok fmt, s.after (activeFmtEffect width height s.dev)) := by
  have hh' : 0 < s.dev.mode.crop.height := by omega
  rw [setFmt_of_pos .active width height hw hh']
  obtain ⟨hlo, hhi⟩ := div_ratioOf_bounds minCropHeight height hh hmax
  have happly := applyFormat_performs
    (ratioOf s.dev.mode.crop.width minCropWidth width)
    (ratioOf s.dev.mode.crop.height minCropHeight height)
    (s.dev.mode.crop.width /
      ratioOf s.dev.mode.crop.width minCropWidth width) hlo hhi
    ((padState .active).ofDev.update (formattedPad width height) s) hs
  rw [Prog.bind_ok (Prog.modify_apply _ s), Prog.when_pos rfl]
  exact ⟨_, (Prog.bind_ok happly).trans rfl⟩

/-- The effect of `ov5693_set_fmt` with a crop that is not empty. -/
def setFmtEffect (width height : BitVec 32) : Which → Effect Device
  | .active => activeFmtEffect width height
  | .try_ i =>
      Effect.silent ((padState (.try_ i)).update (formattedPad width height))

/-! ## Setting the crop rectangle -/

theorem setSelection_crop (which : Which) (r : RectRequest) (s : System) :
    setSelection which .crop r s =
      (.ok (selectedRect r),
        (padState which).ofDev.update (storeCrop (selectedRect r)) s) :=
  rfl

theorem setSelection_other (which : Which) {target : SelTarget}
    (h : target ≠ .crop) (r : RectRequest) (s : System) :
    setSelection which target r s = (.error (.errno .einval), s) := by
  unfold setSelection
  rw [if_pos h]
  rfl

end Ov5693
end SurfaceCameras
