import SurfaceCameras.Ov5693.CropArithmetic

/-!
# Who programs which register bits of the OV5693

The bits of the readout mode are programmed on a runtime resume and nowhere
else; the bits of the controls are programmed by the control handler, which
every start of streaming runs.  Together they are all the bits of the registers
a start relies on.
-/

namespace SurfaceCameras
namespace Ov5693

open Kernel Device MaskedWrites Runs

/-! ## The bits the mode and the controls own -/

/-- The registers that only a resume programs. -/
def modeRegs : List ℕ :=
  [0x3800, 0x3801, 0x3802, 0x3803, 0x3804, 0x3805, 0x3806, 0x3807, 0x3808,
   0x3809, 0x380a, 0x380b, 0x380c, 0x380d, 0x3812, 0x3813, 0x3814, 0x3815,
   0x30b3, 0x3620, 0x3621, 0x3622, 0x3708, 0x3709, 0x371f]

/-- The registers that a control writes as a whole: exposure, gains, test
pattern, frame length and window offset. -/
def ctrlRegs : List ℕ :=
  [0x3500, 0x3501, 0x3502, 0x350a, 0x350b, 0x3400, 0x3401, 0x3402, 0x3403,
   0x3404, 0x3405, 0x5e00, 0x380e, 0x380f, 0x3810, 0x3811]

/-- The registers of a start: those of the mode, those of the controls, and the
two that both write. -/
def startRegs : List ℕ := modeRegs ++ ctrlRegs ++ [format1Reg, format2Reg]

/-- The bits that only a resume programs. -/
def modeBits (a : ℕ) : BitVec 8 :=
  if a ∈ modeRegs then 0xff
  else if a = format1Reg then ~~~flipVertMask
  else if a = format2Reg then ~~~flipHorzMask
  else 0

/-- The cells that one control writes. -/
def ctrlCells : CtrlId → List (ℕ × BitVec 8)
  | .exposure => [(0x3500, 0xff), (0x3501, 0xff), (0x3502, 0xff)]
  | .analogueGain => [(0x350a, 0xff), (0x350b, 0xff)]
  | .digitalGain =>
      [(0x3400, 0xff), (0x3401, 0xff), (0x3402, 0xff), (0x3403, 0xff),
       (0x3404, 0xff), (0x3405, 0xff)]
  | .hflip => [(format2Reg, flipHorzMask), (0x3810, 0xff), (0x3811, 0xff)]
  | .vflip => [(format1Reg, flipVertMask)]
  | .vblank => [(0x380e, 0xff), (0x380f, 0xff)]
  | .testPattern => [(0x5e00, 0xff)]
  | .hblank => []

theorem footprint_ctrlWrites (id : CtrlId) (m : Mode) (val : ℤ) :
    footprint (ctrlWrites id m val) = ctrlCells id := by
  cases id <;> rfl

theorem ctrlCells_outside (id : CtrlId) : Outside modeBits (ctrlCells id) := by
  cases id <;> unfold Outside <;> decide

theorem applyCtrl_spares (id : CtrlId) :
    Spares modeBits (applyCtrlEffect id) := by
  refine Spares.emit fun _ => ?_
  split
  · rw [footprint_ctrlWrites]
    exact ctrlCells_outside id
  · exact fun _ hx => absurd hx List.not_mem_nil

theorem limitExposure_spares (exposureMax : ℤ) :
    Spares modeBits (limitExposureEffect exposureMax) :=
  fun d => Spares.modifyRange _ (applyCtrl_spares .exposure) _ _ _ _ d

theorem sCtrl_spares (id : CtrlId) : Spares modeBits (sCtrlEffect id) := by
  unfold sCtrlEffect
  split
  · exact Spares.seq (fun _ => limitExposure_spares _ _) (applyCtrl_spares _)
  · exact applyCtrl_spares id

theorem handler_spares : Spares modeBits handlerEffect := by
  refine Spares.handlerSetup fun x hx => ?_
  obtain ⟨id, -, rfl⟩ := List.mem_map.mp hx
  exact sCtrl_spares id

theorem writeEffect_spares (id : CtrlId) (v : ℤ) :
    Spares modeBits (writeEffect id v) :=
  Spares.writeCtrl _ (sCtrl_spares id) (ctrlType id) v

theorem streamWrites_outside (enable : Bool) :
    Outside modeBits (footprint (streamWrites enable)) := by
  cases enable <;> unfold Outside <;> decide

theorem formatEffect_spares (hratio vratio width height : ℕ) :
    Spares modeBits (formatEffect hratio vratio width height) := by
  have hv := sCtrl_spares .vblank
  have hhblank : Spares modeBits (hblankEffect (fixedPpl - width)) := by
    intro d
    unfold hblankEffect
    dsimp only
    split <;> exact fun _ hx => absurd hx List.not_mem_nil
  exact Spares.seq (Spares.silent _)
    (Spares.seq (Spares.modifyRange _ hv _ _ _ _)
      (Spares.seq (Spares.seq (Spares.silent _) (Spares.setCtrl _ hv))
        (Spares.seq hhblank (limitExposure_spares _))))

theorem setFmtEffect_spares (w h : BitVec 32) (which : Which) :
    Spares modeBits (setFmtEffect w h which) := by
  cases which with
  | active =>
      intro d
      exact (Spares.silent _).seq (formatEffect_spares _ _ _ _) d
  | try_ i => exact Spares.silent _

/-! ## What a resume programs -/

/-- The two modes ask for the same readout; the crop rectangle matters to an
unbinned one only. -/
structure SameReadout (m m' : Mode) : Prop where
  binningX : m.binningX = m'.binningX
  binningY : m.binningY = m'.binningY
  incXOdd : m.incXOdd = m'.incXOdd
  incYOdd : m.incYOdd = m'.incYOdd
  width : m.format.width = m'.format.width
  height : m.format.height = m'.format.height
  crop : m.binned = false → m.crop = m'.crop

theorem SameReadout.refl (m : Mode) : SameReadout m m :=
  ⟨rfl, rfl, rfl, rfl, rfl, rfl, fun _ => rfl⟩

namespace SameReadout

variable {m m' : Mode} (h : SameReadout m m')
include h

theorem binned : m.binned = m'.binned := by
  unfold Mode.binned
  rw [h.binningX, h.binningY]

theorem readoutStart (f : Rect → ℤ) :
    readoutStart m (f m.crop) = readoutStart m' (f m'.crop) := by
  unfold Ov5693.readoutStart
  rw [← h.binned]
  cases hb : m.binned with
  | true => rfl
  | false => rw [h.crop hb]

theorem readoutEnd (f : Rect → ℤ) (g : Rect → ℕ) (native : ℕ) :
    readoutEnd m (f m.crop) (g m.crop) native =
      readoutEnd m' (f m'.crop) (g m'.crop) native := by
  unfold Ov5693.readoutEnd
  rw [← h.binned]
  cases hb : m.binned with
  | true => rfl
  | false => rw [h.crop hb]

theorem cropStartWrites : cropStartWrites m = cropStartWrites m' := by
  unfold Ov5693.cropStartWrites
  rw [h.readoutStart Rect.left]

theorem geometryWrites (binnedYOffset : ℤ) :
    geometryWrites binnedYOffset m = geometryWrites binnedYOffset m' := by
  unfold Ov5693.geometryWrites
  rw [h.readoutEnd Rect.left Rect.width, h.readoutStart Rect.top,
    h.readoutEnd Rect.top Rect.height, h.binned, h.width, h.height, h.incXOdd,
    h.incYOdd, h.binningX, h.binningY]

theorem modeTable : modeTable m = modeTable m' := by
  unfold Ov5693.modeTable
  rw [h.binned]

end SameReadout

/-- Only the registers of the mode have to be looked at. -/
theorem modeBits_within {k : ℕ → BitVec 8}
    (h : ∀ a ∈ modeRegs ++ [format1Reg, format2Reg],
      k a &&& modeBits a = modeBits a) : Within modeBits k := by
  intro a
  by_cases ha : a ∈ modeRegs ++ [format1Reg, format2Reg]
  · exact h a ha
  · have hzero : modeBits a = 0 := by
      simp only [List.mem_append, List.mem_cons, List.not_mem_nil, or_false,
        not_or] at ha
      unfold modeBits
      rw [if_neg ha.1, if_neg ha.2.1, if_neg ha.2.2]
    rw [hzero]
    exact BitVec.and_zero

section Parameters

variable (binnedYOffset : ℤ)

/-- The bits that a resume programs, whatever the mode. -/
def resumeBits (m : Mode) (a : ℕ) : BitVec 8 :=
  bitsOf (footprint (tableWrites (modeTable m))) a |||
    (bitsOf (footprint (geometryWrites binnedYOffset m)) a |||
      (bitsOf (footprint (cropStartWrites m)) a |||
        (bitsOf (footprint
          (bytesAt swResetReg (bigEndian 1 1) ++ tableWrites globalRegs)) a |||
            0)))

theorem modeBits_within_resumeBits (m : Mode) :
    Within modeBits (resumeBits binnedYOffset m) := by
  have hgeometry : footprint (geometryWrites binnedYOffset m) =
      footprint (geometryWrites 0 blank.mode) := rfl
  have hstart : footprint (cropStartWrites m) =
      footprint (cropStartWrites blank.mode) := rfl
  apply modeBits_within
  unfold resumeBits modeTable
  rw [hgeometry, hstart]
  cases m.binned with
  | true => decide +kernel
  | false => decide +kernel

theorem offsetXWrites_outside (m : Mode) (hflip : ℤ) :
    Outside modeBits (footprint (offsetXWrites m hflip)) := by
  have hcells : footprint (offsetXWrites m hflip) =
      [(0x3810, 0xff), (0x3811, 0xff)] := rfl
  rw [hcells]
  unfold Outside
  decide

theorem vflipWrites_outside (m : Mode) (vflip : ℤ) :
    Outside modeBits (footprint (vflipWrites m vflip)) := by
  unfold vflipWrites
  split
  · exact ctrlCells_outside .vflip
  · exact fun _ hx => absurd hx List.not_mem_nil

/-- Two resumes for the same readout program the same mode bits, whatever the
registers and the flip controls were. -/
theorem initWrites_agreeOn {m m' : Mode} (h : SameReadout m m')
    (hflip vflip hflip' vflip' : ℤ) (r r' : Registers) :
    AgreeOn modeBits (applyAll (initWrites binnedYOffset m hflip vflip) r)
      (applyAll (initWrites binnedYOffset m' hflip' vflip') r') := by
  have hstart : AgreeOn (fun a => modeBits a &&& (fun _ => 0) a) r r' := by
    intro a
    simp
  have hinit := hstart.both
    (bytesAt swResetReg (bigEndian 1 1) ++ tableWrites globalRegs)
  have hcrop := hinit.both (cropStartWrites m)
  have hoffset := hcrop.sides (offsetXWrites_outside m hflip)
    (offsetXWrites_outside m' hflip')
  have hgeometry := hoffset.both (geometryWrites binnedYOffset m)
  have hvflip := hgeometry.sides (vflipWrites_outside m vflip)
    (vflipWrites_outside m' vflip')
  have htable := hvflip.both (tableWrites (modeTable m))
  have hstream := htable.sides (streamWrites_outside false)
    (streamWrites_outside false)
  have hall := hstream.all (modeBits_within_resumeBits binnedYOffset m)
  simp only [initWrites, modeWrites, applyAll_append] at hall ⊢
  rw [← h.cropStartWrites, ← h.geometryWrites, ← h.modeTable]
  exact hall

end Parameters

/-! ## What the control handler programs -/

theorem applyCtrl_footprint {d : Device} (h : d.pm.InUse) (id : CtrlId) :
    footprint (applyCtrlEffect id d).2 = ctrlCells id := by
  rw [applyCtrlEffect_of_inUse h]
  exact footprint_ctrlWrites id _ _

/-- On a device in use the callback programs the bits of its control. -/
theorem sCtrl_covers {d : Device} (h : d.pm.InUse) (id : CtrlId) :
    Within (bitsOf (ctrlCells id)) (bitsOf (footprint (sCtrlEffect id d).2)) := by
  unfold sCtrlEffect
  split
  · next hv =>
      subst hv
      have hpm : (limitExposureEffect (d.mode.format.height + d.vblank.val -
          integrationTimeMargin) d).1.pm = d.pm :=
        (limitExposure_fixes _).map Device.pm d
      have huse : (limitExposureEffect (d.mode.format.height + d.vblank.val -
          integrationTimeMargin) d).1.pm.InUse := hpm ▸ h
      rw [Effect.seq_snd, footprint_append, applyCtrl_footprint huse]
      intro a
      rw [bitsOf_append]
      exact (Within.refl _).right _ a
  · rw [applyCtrl_footprint h]
    exact Within.refl _

theorem setup_pm (id : CtrlId) :
    Fixes Device.pm (setupEffect (ctrlField id, sCtrlEffect id)) := by
  refine Fixes.seq (Fixes.silent fun d => ?_) ((sCtrl_fixes id).map Device.pm)
  cases id <;> rfl

/-- On a device in use the handler programs the bits of all its controls. -/
theorem handlerSetup_covers (ids : List CtrlId) {d : Device}
    (h : d.pm.InUse) :
    Within (bitsOf (ids.flatMap ctrlCells))
      (bitsOf (footprint (handlerSetupEffect
        (ids.map fun id => (ctrlField id, sCtrlEffect id)) d).2)) := by
  induction ids generalizing d with
  | nil => exact Within.refl _
  | cons id ids ih =>
      have hset : ((ctrlField id).update Ctrl.curToNew d).pm.InUse := by
        cases id <;> exact h
      have hpm : (setupEffect (ctrlField id, sCtrlEffect id) d).1.pm.InUse :=
        (setup_pm id d).symm ▸ h
      have hone : Within (bitsOf (ctrlCells id))
          (bitsOf (footprint
            (setupEffect (ctrlField id, sCtrlEffect id) d).2)) :=
        sCtrl_covers hset id
      have hrest := ih hpm
      intro a
      simp only [List.flatMap_cons, List.map_cons, handlerSetupEffect,
        Effect.seq_snd, footprint_append, bitsOf_append]
      exact ((hone.left _).or (hrest.right _)) a

theorem modeBits_or_ctrlBits : ∀ a ∈ startRegs,
    bitsOf (writableCtrls.flatMap ctrlCells) a ||| modeBits a = 0xff := by
  decide +kernel

/-- The devices differ in their power state at most, and both are in use. -/
structure SameDriver (d d' : Device) : Prop where
  eq : d' = { d with pm := d'.pm, power := d'.power }
  inUse : d.pm.InUse
  inUse' : d'.pm.InUse

namespace SameDriver

variable {d d' : Device}

theorem mode (h : SameDriver d d') : d'.mode = d.mode := by rw [h.eq]

theorem ctrl (h : SameDriver d d') (id : CtrlId) :
    (ctrlField id).get d = (ctrlField id).get d' := by
  rw [h.eq]
  cases id <;> rfl

theorem update (h : SameDriver d d') (id : CtrlId) (g : Ctrl → Ctrl) :
    SameDriver ((ctrlField id).update g d) ((ctrlField id).update g d') := by
  have hctrl := h.ctrl id
  refine ⟨?_, ?_, ?_⟩
  · unfold Field.update
    rw [← hctrl]
    cases id <;> simp only [ctrlField, exposureField, analogueGainField,
      digitalGainField, hflipField, vflipField, hblankField, vblankField,
      testPatternField] <;> rw [h.eq]
  · cases id <;> exact h.inUse
  · cases id <;> exact h.inUse'

end SameDriver

theorem applyCtrl_respects (id : CtrlId) :
    Respects SameDriver (applyCtrlEffect id) := by
  intro d d' h
  rw [applyCtrlEffect_of_inUse h.inUse, applyCtrlEffect_of_inUse h.inUse',
    h.mode, h.ctrl id]
  exact ⟨h, rfl⟩

theorem limitExposure_respects (exposureMax : ℤ) :
    Respects SameDriver (limitExposureEffect exposureMax) := by
  intro d d' h
  have hexp : d.exposure = d'.exposure := h.ctrl .exposure
  unfold limitExposureEffect
  rw [hexp]
  exact Respects.modifyRange (fun _ _ h => h.ctrl .exposure)
    (fun g _ _ h => h.update .exposure g) (applyCtrl_respects .exposure)
    _ _ _ _ d d' h

theorem sCtrl_respects (id : CtrlId) :
    Respects SameDriver (sCtrlEffect id) := by
  unfold sCtrlEffect
  split
  · refine Respects.seq (fun d d' h => ?_) (applyCtrl_respects .vblank)
    have hv : d.vblank = d'.vblank := h.ctrl .vblank
    rw [hv, h.mode]
    exact limitExposure_respects _ d d' h
  · exact applyCtrl_respects id

theorem handler_respects : Respects SameDriver handlerEffect := by
  refine Respects.handlerSetup ?_ ?_
  · intro x hx g d d' h
    obtain ⟨id, -, rfl⟩ := List.mem_map.mp hx
    exact h.update id g
  · intro x hx
    obtain ⟨id, -, rfl⟩ := List.mem_map.mp hx
    exact sCtrl_respects id

end Ov5693
end SurfaceCameras
