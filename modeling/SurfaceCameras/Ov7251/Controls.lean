import SurfaceCameras.Ov7251.Format

/-!
# What the control operations of the OV7251 driver do

With every transfer succeeding, a control operation has a definite effect on
the controls of the device; besides, it only writes sensor registers and the
driver's copies of three of them.  Each operation gets one lemma that says so,
in terms of a function from the device before to the device after.
-/

namespace SurfaceCameras
namespace Ov7251

open Kernel Device

/-- Every transfer to come succeeds. -/
def Clean (d : Device) : Prop := d.bus.faults = []

/-- `d'` is `d` up to what is stored in the sensor and in the driver's copies
of its registers. -/
structure SensorOnly (d d' : Device) : Prop where
  eq : d' =
    { d with
      bus := d'.bus
      preIsp00 := d'.preIsp00
      timingFormat1 := d'.timingFormat1
      timingFormat2 := d'.timingFormat2 }
  clean : Clean d → Clean d'

namespace SensorOnly

theorem refl (d : Device) : SensorOnly d d := ⟨rfl, id⟩

theorem trans {d d' d'' : Device} (h : SensorOnly d d')
    (h' : SensorOnly d' d'') : SensorOnly d d'' := by
  refine ⟨?_, h'.clean ∘ h.clean⟩
  rw [h'.eq, h.eq]

variable {d d' : Device} (h : SensorOnly d d')
include h

theorem exposure : d'.exposure = d.exposure := by rw [h.eq]
theorem gain : d'.gain = d.gain := by rw [h.eq]
theorem vblank : d'.vblank = d.vblank := by rw [h.eq]
theorem hflip : d'.hflip = d.hflip := by rw [h.eq]
theorem vflip : d'.vflip = d.vflip := by rw [h.eq]
theorem testPattern : d'.testPattern = d.testPattern := by rw [h.eq]
theorem pad : d'.pad = d.pad := by rw [h.eq]
theorem ctrl (id : CtrlId) :
    (ctrlField id).get d' = (ctrlField id).get d := by
  cases id
  · exact h.hflip
  · exact h.vflip
  · exact h.exposure
  · exact h.gain
  · exact h.testPattern
  · exact h.vblank

theorem update (id : CtrlId) (f : Ctrl → Ctrl) :
    SensorOnly ((ctrlField id).update f d) ((ctrlField id).update f d') := by
  constructor
  · have hc := h.ctrl id
    unfold Field.update
    rw [hc]
    cases id <;>
      simp only [ctrlField, hflipField, vflipField, exposureField, gainField,
        testPatternField, vblankField] <;> rw [h.eq]
  · have := h.clean
    cases id <;> exact this

theorem withMode (n : Fin 3) :
    SensorOnly { d with currentMode := n } { d' with currentMode := n } := by
  constructor
  · rw [h.eq]
  · exact h.clean

theorem withPad (p : PadState) :
    SensorOnly { d with pad := p } { d' with pad := p } := by
  constructor
  · rw [h.eq]
  · exact h.clean

end SensorOnly

theorem update_update (id : CtrlId) (f g : Ctrl → Ctrl) (d : Device) :
    (ctrlField id).update g ((ctrlField id).update f d) =
      (ctrlField id).update (g ∘ f) d := by
  cases id <;> rfl

theorem clean_update (id : CtrlId) (f : Ctrl → Ctrl) (d : Device) :
    Clean ((ctrlField id).update f d) ↔ Clean d := by
  cases id <;> exact Iff.rfl

/-! ## Effects -/

/-- With every transfer succeeding, `p` returns, and up to the sensor it
changes the device by `f`. -/
def Does (p : Prog Device Fault Unit) (f : Device → Device) : Prop :=
  ∀ d, Clean d → ∃ d', p d = (.ok (), d') ∧ SensorOnly (f d) d'

/-- The change `f` does not depend on what is stored in the sensor. -/
structure Stable (f : Device → Device) : Prop where
  sensorOnly : ∀ {d d'}, SensorOnly d d' → SensorOnly (f d) (f d')
  clean : ∀ {d}, Clean d → Clean (f d)

theorem Stable.id : Stable id := ⟨fun h => h, fun h => h⟩

theorem Stable.update (i : CtrlId) (f : Ctrl → Ctrl) :
    Stable ((ctrlField i).update f) :=
  ⟨fun h => h.update i f, (clean_update i f _).mpr⟩

theorem Stable.comp {f g : Device → Device} (hg : Stable g) (hf : Stable f) :
    Stable (g ∘ f) :=
  ⟨fun h => hg.sensorOnly (hf.sensorOnly h), fun h => hg.clean (hf.clean h)⟩

namespace Does

theorem pure : Does (Pure.pure ()) id :=
  fun d _ => ⟨d, rfl, SensorOnly.refl d⟩

theorem modify {f : Device → Device} : Does (Prog.modify f) f :=
  fun d _ => ⟨f d, rfl, SensorOnly.refl (f d)⟩

theorem seq {p q : Prog Device Fault Unit} {f g : Device → Device}
    (hp : Does p f) (hq : Does q g) (hf : Stable f) (hg : Stable g) :
    Does (p >>= fun _ => q) (g ∘ f) := by
  intro d hd
  obtain ⟨d₁, hok, h₁⟩ := hp d hd
  obtain ⟨d₂, hok', h₂⟩ := hq d₁ (h₁.clean (hf.clean hd))
  exact ⟨d₂, (Prog.bind_ok hok).trans hok', (hg.sensorOnly h₁).trans h₂⟩

theorem outcome {p : Prog Device Fault Unit} {f : Device → Device}
    (hp : Does p f) {d : Device} (hd : Clean d) : SensorOnly (f d) (p d).2 := by
  obtain ⟨d', hok, h'⟩ := hp d hd
  rw [hok]
  exact h'

end Does

/-! ## Sensor writes -/

theorem writeReg_does (reg : ℕ) (val : BitVec 8) :
    Does (writeReg reg val) id := by
  intro d h
  have hb : (busField.get d).faults = [] := h
  exact ⟨_, busWrite_ok hb reg [val], rfl, id⟩

theorem writeSeqRegs_does (reg : ℕ) {val : List (BitVec 8)}
    (hlen : val.length ≤ 3) : Does (writeSeqRegs reg val) id := by
  intro d h
  unfold writeSeqRegs
  rw [if_neg (by omega)]
  have hb : (busField.get d).faults = [] := h
  exact ⟨_, busWrite_ok hb reg val, rfl, id⟩

theorem setCachedBit_does {cache : Field Device (BitVec 8)} (reg : ℕ)
    (bit : BitVec 8) (value : ℤ)
    (hcache : ∀ d v, SensorOnly d (cache.set d v)) :
    Does (setCachedBit cache reg bit value) id := by
  intro d h
  unfold setCachedBit
  rw [Prog.bind_ok (Prog.gets_apply _ d)]
  obtain ⟨d₁, hw, h₁⟩ := writeReg_does reg
    (if value ≠ 0 then cache.get d ||| bit else cache.get d &&& ~~~bit) d h
  rw [Prog.bind_ok hw]
  exact ⟨_, rfl, h₁.trans (hcache d₁ _)⟩

section Parameters

variable (par : Params)

theorem writeCtrl_does (i : CtrlId) (val : ℤ) :
    Does (writeCtrl par i val) id := by
  cases i with
  | hflip => exact setCachedBit_does _ _ val fun _ _ => ⟨rfl, id⟩
  | vflip => exact setCachedBit_does _ _ val fun _ _ => ⟨rfl, id⟩
  | testPattern => exact setCachedBit_does _ _ val fun _ _ => ⟨rfl, id⟩
  | exposure =>
      simp only [writeCtrl, setExposure]
      exact writeSeqRegs_does _ (by simp)
  | analogueGain =>
      simp only [writeCtrl, setGain]
      exact writeSeqRegs_does _ (by simp)
  | vblank =>
      intro d h
      simp only [writeCtrl, vtsConfigure]
      rw [Prog.bind_ok (Prog.gets_apply _ d)]
      exact writeSeqRegs_does _ (by simp) d h

/-- Applying a control takes a reference and drops it again. -/
theorem applyCtrl_does (i : CtrlId) : Does (applyCtrl par i) id := by
  intro d h
  unfold applyCtrl
  by_cases huse : d.pm.InUse
  · have hget : pmRuntimeGetIfInUse pmField d =
        (.ok true, { d with pm := d.pm.get }) :=
      pmRuntimeGetIfInUse_of_inUse pmField huse
    rw [Prog.bind_ok hget, if_pos rfl, Prog.bind_ok (Prog.gets_apply _ _)]
    have hclean : Clean { d with pm := d.pm.get } := h
    obtain ⟨d₁, hw, h₁⟩ := writeCtrl_does par i
      ((ctrlField i).get { d with pm := d.pm.get }).val _ hclean
    refine ⟨{ d₁ with pm := d₁.pm.put }, ?_, ?_, h₁.clean⟩
    · unfold Prog.tryFinally
      rw [hw]
      rfl
    · rw [h₁.eq]
      simp only [id_eq, RuntimePm.put_get_of_inUse huse]
  · rw [Prog.bind_ok (pmRuntimeGetIfInUse_of_not pmField huse)]
    exact ⟨d, rfl, SensorOnly.refl d⟩

/-! ## Setting a control -/

/-- The effect of `set_ctrl`, given the effect of the callback. -/
def setEffect (i : CtrlId) (f : Device → Device) (d : Device) : Device :=
  let d₁ := (ctrlField i).update Ctrl.validateNew d
  if ((ctrlField i).get d₁).val = ((ctrlField i).get d₁).cur then d₁
  else (ctrlField i).update Ctrl.newToCur (f d₁)

theorem setCtrl_does {i : CtrlId} {cb : Prog Device Fault Unit}
    {f : Device → Device} (hcb : Does cb f) :
    Does (setCtrl (ctrlField i) cb) (setEffect i f) := by
  intro d h
  have hget : (ctrlField i).get ((ctrlField i).update Ctrl.validateNew d) =
      ((ctrlField i).get d).validateNew := Field.get_update _ _ _
  by_cases hsame : ((ctrlField i).get d).validateNew.val =
      ((ctrlField i).get d).validateNew.cur
  · refine ⟨_, setCtrl_unchanged hsame, ?_⟩
    rw [setEffect, hget, if_pos hsame]
    exact SensorOnly.refl _
  · obtain ⟨d', hok, hd'⟩ := hcb ((ctrlField i).update Ctrl.validateNew d)
      ((clean_update i _ d).mpr h)
    refine ⟨_, setCtrl_changed hsame hok, ?_⟩
    rw [setEffect, hget, if_neg hsame]
    exact hd'.update i Ctrl.newToCur

theorem setEffect_unchanged {i : CtrlId} {d : Device}
    (h : ((ctrlField i).get d).validateNew.val = ((ctrlField i).get d).cur)
    (f : Device → Device) :
    setEffect i f d = (ctrlField i).update Ctrl.validateNew d := by
  unfold setEffect
  exact if_pos (by rw [Field.get_update]; exact h)

theorem Stable.setEffect (i : CtrlId) {f : Device → Device} (hf : Stable f) :
    Stable (setEffect i f) := by
  have hv := Stable.update i Ctrl.validateNew
  have hn := Stable.update i Ctrl.newToCur
  constructor
  · intro d d' h
    unfold Ov7251.setEffect
    have h₁ := hv.sensorOnly h
    dsimp only
    rw [h₁.ctrl i]
    split
    · exact h₁
    · exact hn.sensorOnly (hf.sensorOnly h₁)
  · intro d h
    unfold Ov7251.setEffect
    dsimp only
    split
    · exact hv.clean h
    · exact hn.clean (hf.clean (hv.clean h))

/-- A callback that only writes the sensor makes the control hold the clamped
value. -/
theorem setEffect_id (i : CtrlId) (d : Device) :
    setEffect i id d = (ctrlField i).update (fun c => c.applied c.val) d := by
  have hget : (ctrlField i).get ((ctrlField i).update Ctrl.validateNew d) =
      ((ctrlField i).get d).validateNew := Field.get_update _ _ _
  rw [setEffect, hget]
  split
  · next hsame =>
      have : ((ctrlField i).get d).validateNew =
          ((ctrlField i).get d).applied ((ctrlField i).get d).val :=
        (Ctrl.applied_of_unchanged hsame).symm
      unfold Field.update
      rw [this]
  · exact update_update i _ _ d

theorem v4l2CtrlSCtrl_does_of {i : CtrlId} {cb : Prog Device Fault Unit}
    {f : Device → Device} (hcb : Does cb f) (hf : Stable f) (v : ℤ) :
    Does (v4l2CtrlSCtrl (ctrlField i) cb v)
      (setEffect i f ∘ (ctrlField i).update fun c => { c with val := v }) :=
  Does.modify.seq (setCtrl_does hcb) (Stable.update i _) (hf.setEffect i)

theorem v4l2CtrlModifyRange_does_of {i : CtrlId}
    {cb : Prog Device Fault Unit} {f : Device → Device} (hcb : Does cb f)
    (hf : Stable f) {lo hi : ℤ} {st : ℕ} {dflt : ℤ}
    (hr : Ctrl.RangeOk lo hi st dflt) :
    Does (v4l2CtrlModifyRange (ctrlField i) cb lo hi st dflt)
      (setEffect i f ∘ (ctrlField i).update fun c =>
        (c.withRange lo hi st dflt).curToNew) := by
  unfold v4l2CtrlModifyRange
  rw [if_pos hr]
  exact Does.modify.seq (setCtrl_does hcb) (Stable.update i _) (hf.setEffect i)

theorem v4l2CtrlSCtrl_does {i : CtrlId} {cb : Prog Device Fault Unit}
    (hcb : Does cb id) (v : ℤ) :
    Does (v4l2CtrlSCtrl (ctrlField i) cb v)
      ((ctrlField i).update fun c => c.applied v) := by
  have h := v4l2CtrlSCtrl_does_of (i := i) hcb Stable.id v
  have heq : (setEffect i id ∘
      (ctrlField i).update fun c => { c with val := v }) =
        (ctrlField i).update fun c => c.applied v := by
    funext d
    rw [Function.comp_apply, setEffect_id, update_update]
    rfl
  rwa [heq] at h

/-- Changing the range of a control whose callback only writes the sensor. -/
theorem v4l2CtrlModifyRange_does {i : CtrlId} {cb : Prog Device Fault Unit}
    (hcb : Does cb id) {lo hi : ℤ} {st : ℕ} {dflt : ℤ}
    (hr : Ctrl.RangeOk lo hi st dflt) :
    Does (v4l2CtrlModifyRange (ctrlField i) cb lo hi st dflt)
      ((ctrlField i).update fun c =>
        (c.withRange lo hi st dflt).applied c.cur) := by
  have h := v4l2CtrlModifyRange_does_of (i := i) hcb Stable.id hr
  have heq : (setEffect i id ∘ (ctrlField i).update fun c =>
      (c.withRange lo hi st dflt).curToNew) =
        (ctrlField i).update fun c =>
          (c.withRange lo hi st dflt).applied c.cur := by
    funext d
    rw [Function.comp_apply, setEffect_id, update_update]
    rfl
  rwa [heq] at h

/-! ## The vertical blanking callback -/

/-- The exposure control after the vertical blanking has become `vblank`: its
range follows the frame length if the new range is consistent. -/
def followVblank (vblank : ℤ) (c : Ctrl) : Ctrl :=
  let exposureMax := 480 + vblank - exposureMargin par
  let dflt := min c.val exposureMax
  if Ctrl.RangeOk c.minimum exposureMax c.step dflt then
    (c.withRange c.minimum exposureMax c.step dflt).applied c.cur
  else
    c

/-- The effect of the first half of `ov7251_s_ctrl` for the vertical
blanking. -/
def exposureFollows (d : Device) : Device :=
  { d with exposure := followVblank par d.vblank.val d.exposure }

theorem Stable.exposureFollows : Stable (exposureFollows par) := by
  constructor
  · intro d d' h
    constructor
    · simp only [Ov7251.exposureFollows, h.vblank, h.exposure]
      rw [h.eq]
    · exact h.clean
  · exact fun h => h

theorem adjustExposureRange_does :
    Does (adjustExposureRange par) (exposureFollows par) := by
  intro d h
  unfold adjustExposureRange
  rw [Prog.bind_ok (Prog.gets_apply _ d), Prog.bind_ok (Prog.gets_apply _ d),
    Prog.bind_ok (Prog.gets_apply _ d)]
  simp only [Device.height_eq]
  by_cases hr : Ctrl.RangeOk d.exposure.minimum
      (480 + d.vblank.val - exposureMargin par) d.exposure.step
      (min d.exposure.val (480 + d.vblank.val - exposureMargin par))
  · obtain ⟨d', hok, h'⟩ := v4l2CtrlModifyRange_does
      (i := .exposure) (applyCtrl_does par .exposure) hr d h
    refine ⟨d', Prog.tryCatch_ok hok, ?_⟩
    have heq : exposureFollows par d = (ctrlField .exposure).update
        (fun c => (c.withRange d.exposure.minimum
          (480 + d.vblank.val - exposureMargin par) d.exposure.step
          (min d.exposure.val
            (480 + d.vblank.val - exposureMargin par))).applied c.cur) d := by
      simp only [exposureFollows, followVblank, if_pos hr]
      rfl
    rw [heq]
    exact h'
  · refine ⟨d, Prog.tryCatch_error (e := .errno .erange) ?_, ?_⟩
    · unfold v4l2CtrlModifyRange
      exact if_neg hr ▸ rfl
    · have heq : exposureFollows par d = d := by
        simp only [exposureFollows, followVblank, if_neg hr]
      rw [heq]
      exact SensorOnly.refl d

/-! ## The control callback and control writes -/

/-- The effect of `ov7251_s_ctrl`. -/
def sCtrlEffect : CtrlId → Device → Device
  | .vblank => exposureFollows par
  | _ => id

theorem sCtrlEffect_of_ne {i : CtrlId} (hi : i ≠ .vblank) :
    sCtrlEffect par i = id := by
  cases i <;> first | rfl | exact absurd rfl hi

theorem sCtrl_does (i : CtrlId) : Does (sCtrl par i) (sCtrlEffect par i) := by
  unfold sCtrl
  by_cases hi : i = .vblank
  · subst hi
    exact (adjustExposureRange_does par).seq (applyCtrl_does par .vblank)
      (Stable.exposureFollows par) Stable.id
  · rw [Prog.when_neg hi, sCtrlEffect_of_ne par hi]
    exact Does.pure.seq (applyCtrl_does par i) Stable.id Stable.id

theorem Stable.sCtrlEffect (i : CtrlId) : Stable (sCtrlEffect par i) := by
  cases i with
  | vblank => exact Stable.exposureFollows par
  | exposure | analogueGain | hflip | vflip | testPattern => exact Stable.id

theorem set_does (i : CtrlId) (v : ℤ) :
    Does (v4l2CtrlSCtrl (ctrlField i) (sCtrl par i) v)
      (setEffect i (sCtrlEffect par i) ∘
        (ctrlField i).update fun c => { c with val := v }) :=
  v4l2CtrlSCtrl_does_of (sCtrl_does par i) (Stable.sCtrlEffect par i) v

/-- What a control write leaves, other than of the vertical blanking. -/
theorem writeControl_outcome {i : CtrlId} (hi : i ≠ .vblank) (v : ℤ)
    {d : Device} (hd : Clean d) :
    SensorOnly ((ctrlField i).update (fun c => c.written (ctrlType i) v) d)
      (writeControl par i v d).2 := by
  have hcb := sCtrl_does par i
  rw [sCtrlEffect_of_ne par hi] at hcb
  unfold writeControl
  cases h : ((ctrlField i).get d).stdValidate v (ctrlType i) with
  | some w =>
      have hsame := Field.update_congr (ctrlField i)
        (f := fun c => c.written (ctrlType i) v) (g := fun c => c.applied w)
          (Ctrl.written_of_some h)
      rw [v4l2SCtrl_of_some h, hsame]
      exact (v4l2CtrlSCtrl_does hcb w).outcome hd
  | none =>
      have hsame := Field.update_congr (ctrlField i)
        (f := fun c => c.written (ctrlType i) v) (g := fun c => c)
          (Ctrl.written_of_none h)
      rw [v4l2SCtrl_of_none h, hsame]
      cases i <;> exact SensorOnly.refl d

/-- The effect of writing the vertical blanking: the exposure range follows if
the value changes. -/
def vblankWritten (v : ℤ) (d : Device) : Device :=
  if (d.vblank.applied v).cur = d.vblank.cur then
    { d with vblank := d.vblank.applied v }
  else
    { d with
      vblank := d.vblank.applied v
      exposure := followVblank par (d.vblank.applied v).cur d.exposure }

theorem writeVblank_does (v : ℤ) :
    Does (writeControl par .vblank v) (vblankWritten par v) := by
  have h : Does (writeControl par .vblank v) _ := set_does par .vblank v
  have heq : (setEffect .vblank (exposureFollows par) ∘
      (ctrlField .vblank).update fun x => { x with val := v }) =
        vblankWritten par v := by
    funext d
    by_cases hsame : (d.vblank.applied v).cur = d.vblank.cur
    · rw [vblankWritten, if_pos hsame, Ctrl.applied_of_unchanged hsame]
      exact if_pos hsame
    · rw [vblankWritten, if_neg hsame]
      exact if_neg hsame
  rwa [← heq]

end Parameters

end Ov7251
end SurfaceCameras
