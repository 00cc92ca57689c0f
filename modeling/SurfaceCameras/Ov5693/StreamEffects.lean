import SurfaceCameras.Ov5693.Effects

/-!
# Streaming the OV5693 when every transfer succeeds

The register writes of a runtime resume, the effect of `ov5693_s_stream`, and
the effect of every call of a run.
-/

namespace SurfaceCameras
namespace Ov5693

open Kernel Device MaskedWrites Runs

/-! ## Programming the mode -/

section Parameters

variable (binnedYOffset : ℤ)

/-- The first column of the readout. -/
def cropStartWrites (m : Mode) : List MaskedWrite :=
  bytesAt cropStartXReg (bigEndian 2 (readoutStart m m.crop.left))

/-- The window offset along `x`, which follows the horizontal flip. -/
def offsetXWrites (m : Mode) (hflip : ℤ) : List MaskedWrite :=
  bytesAt offsetStartXReg (bigEndian 2 (offsetStartX m (hflip != 0)))

/-- The rest of the readout geometry and the binning bits. -/
def geometryWrites (m : Mode) : List MaskedWrite :=
  bytesAt outputSizeXReg (bigEndian 2 m.format.width) ++
  (bytesAt cropEndXReg
    (bigEndian 2 (readoutEnd m m.crop.left m.crop.width nativeWidth)) ++
  (bytesAt timingHtsReg (bigEndian 2 fixedPpl) ++
  (bytesAt cropStartYReg (bigEndian 2 (readoutStart m m.crop.top)) ++
  (bytesAt offsetStartYReg
    (bigEndian 2 (if m.binned then binnedYOffset else 0)) ++
  (bytesAt outputSizeYReg (bigEndian 2 m.format.height) ++
  (bytesAt cropEndYReg
    (bigEndian 2 (readoutEnd m m.crop.top m.crop.height nativeHeight)) ++
  (bytesAt subIncXReg
    (bigEndian 1 ((BitVec.ofNat 8 m.incXOdd <<< 4) ||| 1).toNat) ++
  (bytesAt subIncYReg
    (bigEndian 1 ((BitVec.ofNat 8 m.incYOdd <<< 4) ||| 1).toNat) ++
  [⟨format1Reg, format1VbinEn, if m.binningY then format1VbinEn else 0⟩,
    ⟨format2Reg, format2HbinEn, if m.binningX then format2HbinEn else 0⟩]))))))))

/-- The vertical flip bits of the readout mode, if the picture is flipped. -/
def vflipWrites (m : Mode) (vflip : ℤ) : List MaskedWrite :=
  if vflip ≠ 0 then [⟨format1Reg, flipVertMask, flipVertBits m⟩] else []

/-- The PLL and analogue readout table of the mode. -/
def modeTable (m : Mode) : RegSequence :=
  if m.binned then modeBinnedRegs else modeFullRegs

/-- The writes of `ov5693_mode_configure`. -/
def modeWrites (m : Mode) (hflip vflip : ℤ) : List MaskedWrite :=
  cropStartWrites m ++ (offsetXWrites m hflip ++
    (geometryWrites binnedYOffset m ++
      (vflipWrites m vflip ++ tableWrites (modeTable m))))

theorem modeConfigure_performs :
    Performs (modeConfigure binnedYOffset)
      (Effect.emit fun d =>
        modeWrites binnedYOffset d.mode d.hflip.val d.vflip.val) := by
  have hwrite : ∀ (reg n : ℕ) (val : ℤ), Performs
      (cciWrite reg n val : Prog System Fault Unit)
      (Effect.emit fun _ => bytesAt reg (bigEndian n val)) :=
    cciWrite_performs
  refine Performs.congr (Performs.gets Device.mode (e := fun m d =>
    (d, modeWrites binnedYOffset m d.hflip.val d.vflip.val)) fun m => ?_)
      fun _ => rfl
  refine Performs.congr (Performs.gets (fun d : Device => d.hflip.val)
    (e := fun h d => (d, modeWrites binnedYOffset m h d.vflip.val))
      fun h => ?_) fun _ => rfl
  refine Performs.congr (Performs.gets (fun d : Device => d.vflip.val)
    (e := fun v d => (d, modeWrites binnedYOffset m h v)) fun v => ?_)
      fun _ => rfl
  have hflip := (cciUpdateBits_performs (δ := Device) format1Reg flipVertMask
    (flipVertBits m)).when (c := v ≠ 0)
  refine Performs.congr ((hwrite _ _ _).seq ((hwrite _ _ _).seq
    ((hwrite _ _ _).seq ((hwrite _ _ _).seq ((hwrite _ _ _).seq
    ((hwrite _ _ _).seq ((hwrite _ _ _).seq ((hwrite _ _ _).seq
    ((hwrite _ _ _).seq ((hwrite _ _ _).seq ((hwrite _ _ _).seq
    ((cciUpdateBits_performs _ _ _).seq ((cciUpdateBits_performs _ _ _).seq
    (hflip.seq (cciMultiRegWrite_performs _))))))))))))))) fun d => ?_
  simp only [Effect.seq, Effect.emit, modeWrites, vflipWrites]
  split
  · simp [geometryWrites, cropStartWrites, offsetXWrites, modeTable]
  · simp [geometryWrites, cropStartWrites, offsetXWrites, modeTable]

/-- The writes of `ov5693_enable_streaming`. -/
def streamWrites (enable : Bool) : List MaskedWrite :=
  (if enable then bytesAt mipiCtrl00Reg (bigEndian 1 0x2d) else []) ++
    bytesAt swStreamReg (bigEndian 1 (if enable then 1 else 0))

theorem enableStreaming_performs (enable : Bool) :
    Performs (enableStreaming enable)
      (Effect.emit fun _ => streamWrites enable) := by
  have h := ((cciWrite_performs (δ := Device) mipiCtrl00Reg 1 0x2d).when
    (c := enable = true)).seq
      (cciWrite_performs swStreamReg 1 (if enable then 1 else 0))
  refine Performs.congr h fun d => ?_
  cases enable <;> rfl

/-- The writes of `ov5693_sensor_init`. -/
def initWrites (m : Mode) (hflip vflip : ℤ) : List MaskedWrite :=
  bytesAt swResetReg (bigEndian 1 1) ++ (tableWrites globalRegs ++
    (modeWrites binnedYOffset m hflip vflip ++ streamWrites false))

theorem sensorInit_performs :
    Performs (sensorInit binnedYOffset)
      (Effect.emit fun d =>
        initWrites binnedYOffset d.mode d.hflip.val d.vflip.val) :=
  (cciWrite_performs swResetReg 1 1).seq
    ((cciMultiRegWrite_performs globalRegs).seq
      ((modeConfigure_performs binnedYOffset).seq
        (enableStreaming_performs false)))

/-! ## Power and streaming -/

/-- What a successful power-up does to the power state. -/
def Power.up (p : Power) : Power :=
  { reset := false
    powerdown := false
    xvclk := p.xvclk + 1
    supplies := fun i => p.supplies i + 1 }

theorem sensorPowerup_performs :
    Performs sensorPowerup (Effect.silent (powerField.update Power.up)) := by
  have henable : ∀ f : Power → Power,
      Performs (tryEnable f) (Effect.silent (powerField.update f)) :=
    fun f => transfer_performs.seq (Performs.update powerField f)
  exact (Performs.update powerField _).seq
    ((((henable _).seq (henable _)).tryCatch _).seq
      (Performs.update powerField _))

/-- The effect of `ov5693_sensor_resume`. -/
def resumeEffect : Effect Device :=
  (Effect.silent (powerField.update Power.up)).seq
    (Effect.emit fun d =>
      initWrites binnedYOffset d.mode d.hflip.val d.vflip.val)

theorem sensorResume_performs :
    Performs (sensorResume binnedYOffset) (resumeEffect binnedYOffset) :=
  sensorPowerup_performs.seq ((sensorInit_performs binnedYOffset).tryCatch _)

/-- The effect of the control handler setup. -/
def handlerEffect : Effect Device :=
  handlerSetupEffect
    (writableCtrls.map fun id => (ctrlField id, sCtrlEffect id))

theorem handlerSetup_performs : Performs handlerSetup handlerEffect := by
  refine v4l2CtrlHandlerSetup_performs writableCtrls fun id hid => ?_
  refine sCtrl_performs ?_
  rintro rfl
  exact absurd hid (by decide)

/-- The effect of `ov5693_s_stream`. -/
def sStreamEffect : Bool → Effect Device
  | true =>
      (resumeAndGetEffect pmField (resumeEffect binnedYOffset)).seq
        (handlerEffect.seq (Effect.emit fun _ => streamWrites true))
  | false =>
      (Effect.emit fun _ => streamWrites false).seq
        (Effect.silent (pmField.update RuntimePm.put))

theorem sStream_performs (enable : Bool) :
    Performs (sStream binnedYOffset enable)
      (sStreamEffect binnedYOffset enable) := by
  cases enable with
  | true =>
      exact (pmRuntimeResumeAndGet_performs
        (sensorResume_performs binnedYOffset)).seq
          ((handlerSetup_performs.seq (enableStreaming_performs true)).tryCatch
            dropReference)
  | false =>
      exact ((enableStreaming_performs false).tryCatch dropReference).seq
        pmRuntimePut_performs

/-- The device after a runtime suspend. -/
def suspended (d : Device) : Device :=
  { d with
    power :=
      { reset := true
        powerdown := true
        supplies := fun i => d.power.supplies i - 1
        xvclk := d.power.xvclk - 1 }
    pm := d.pm.suspend }

/-- The device after its timer has gone off while it was held. -/
def expired (d : Device) : Device := { d with pm := d.pm.expire }

theorem autosuspend_eq (lost : ℕ → BitVec 8) (s : System) :
    autosuspend lost s =
      (.ok (), if s.dev.pm.active = true ∧ s.dev.pm.usage = 0 then
        ⟨suspended s.dev, { s.bus with regs := lost }⟩
          else ⟨expired s.dev, s.bus⟩) := by
  unfold autosuspend
  rw [Prog.bind_ok (Prog.gets_apply _ s)]
  by_cases h : s.dev.pm.active = true ∧ s.dev.pm.usage = 0
  · simp only [if_pos h]
    rfl
  · simp only [if_neg h]
    rfl

/-- The driver after a successful `ov5693_probe`. -/
def probedDevice : Device :=
  { initControls { blank with mode := { blank.mode with vts := 2078 } } with
    pm := ⟨true, 0, true⟩
    power := Power.up blank.power }

theorem probe_eq (regs : ℕ → BitVec 8) :
    probe regs = ⟨probedDevice, ⟨regs, []⟩⟩ := by
  unfold probe setup
  rw [Prog.bind_ok (calcVts_eq (by decide) (by decide) _)]
  rfl

/-! ## What control operations and streaming leave alone -/

/-- The fields that decide the readout: mode, open file handles and the
applied blanking values. -/
structure Readout where
  mode : Mode
  tries : ℕ → PadState
  hblank : ℤ
  vblank : ℤ

def Device.readout (d : Device) : Readout :=
  ⟨d.mode, d.tries, d.hblank.cur, d.vblank.cur⟩

/-- Everything but the exposure control. -/
def Device.butExposure (d : Device) : Device :=
  { d with exposure := blank.exposure }

theorem limitExposure_fixes (exposureMax : ℤ) :
    Fixes Device.butExposure (limitExposureEffect exposureMax) :=
  fun d => Fixes.modifyRange (fun _ _ => rfl) (Fixes.emit _) _ _ _ _ d

theorem sCtrl_fixes (id : CtrlId) :
    Fixes Device.butExposure (sCtrlEffect id) := by
  unfold sCtrlEffect
  split
  · refine Fixes.seq (fun d => ?_) (Fixes.emit _)
    exact limitExposure_fixes _ d
  · exact Fixes.emit _

theorem fixes_of_butExposure {τ : Type} {f : Device → τ} {e : Effect Device}
    (hf : ∀ d, f d.butExposure = f d) (h : Fixes Device.butExposure e) :
    Fixes f e := by
  intro d
  rw [← hf, ← hf d]
  exact congrArg f (h d)

theorem hblankEffect_fixes {τ : Type} {f : Device → τ}
    (hf : ∀ g d, f (hblankField.update g d) = f d) (hblank : ℤ) :
    Fixes f (hblankEffect hblank) := by
  intro d
  unfold hblankEffect
  dsimp only
  split
  · rw [hf]
  · rw [hf, hf]

/-- A format call leaves alone what depends on neither the mode nor the
blanking and exposure controls. -/
theorem formatEffect_fixes {τ : Type} {f : Device → τ}
    (hexp : ∀ d, f d.butExposure = f d)
    (hmode : ∀ hratio vratio d, f (formatMode hratio vratio d) = f d)
    (hvblank : ∀ g d, f (vblankField.update g d) = f d)
    (hhblank : ∀ g d, f (hblankField.update g d) = f d)
    (hratio vratio width height : ℕ) :
    Fixes f (formatEffect hratio vratio width height) := by
  have hv := fixes_of_butExposure hexp (sCtrl_fixes .vblank)
  exact Fixes.seq (Fixes.silent (hmode hratio vratio))
    (Fixes.seq (Fixes.modifyRange hvblank hv _ _ _ _)
      (Fixes.seq
        (Fixes.seq (Fixes.silent (hvblank _)) (Fixes.setCtrl hvblank hv))
        (Fixes.seq (hblankEffect_fixes hhblank _)
          (fixes_of_butExposure hexp (limitExposure_fixes _)))))

theorem limitExposure_readout (exposureMax : ℤ) :
    Fixes Device.readout (limitExposureEffect exposureMax) :=
  (limitExposure_fixes exposureMax).map Device.readout

theorem sCtrl_readout (id : CtrlId) : Fixes Device.readout (sCtrlEffect id) :=
  (sCtrl_fixes id).map Device.readout

theorem handler_fixes : Fixes Device.readout handlerEffect := by
  refine Fixes.handlerSetup fun x hx => ?_
  obtain ⟨id, -, rfl⟩ := List.mem_map.mp hx
  refine Fixes.seq (Fixes.silent fun d => ?_) (sCtrl_readout id)
  cases id <;> rfl

theorem sStream_fixes (enable : Bool) :
    Fixes Device.readout (sStreamEffect binnedYOffset enable) := by
  cases enable with
  | true =>
      have hresume : Fixes Device.readout (resumeEffect binnedYOffset) :=
        Fixes.seq (Fixes.silent fun _ => rfl) (Fixes.emit _)
      exact (Fixes.resumeAndGet (fun _ _ => rfl) hresume).seq
        (handler_fixes.seq (Fixes.emit _))
  | false => exact (Fixes.emit _).seq (Fixes.silent fun _ => rfl)

theorem write_fixes {id : CtrlId} (hid : id ≠ .hblank) (hv : id ≠ .vblank)
    (v : ℤ) : Fixes Device.readout (writeEffect id v) := by
  have hupdate : ∀ (g : Ctrl → Ctrl) (d : Device),
      ((ctrlField id).update g d).readout = d.readout := by
    intro g d
    cases id with
    | hblank => exact absurd rfl hid
    | vblank => exact absurd rfl hv
    | exposure | analogueGain | digitalGain | hflip | vflip | testPattern =>
        rfl
  exact Fixes.writeCtrl hupdate (sCtrl_readout id) (ctrlType id) v

end Parameters

end Ov5693
end SurfaceCameras
