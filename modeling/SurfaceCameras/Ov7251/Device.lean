import SurfaceCameras.Kernel.Control
import SurfaceCameras.Kernel.Subdev
import SurfaceCameras.Ov7251.Modes
import SurfaceCameras.Ov7251.LinkFrequency

/-!
# The OV7251 driver: device state and controls

`struct ov7251` with its controls, the control callback `ov7251_s_ctrl` and the
functions that bring a control value to the sensor.
-/

namespace SurfaceCameras
namespace Ov7251

open Kernel

/-- Which of the supported external clocks feeds the sensor. -/
inductive XclkRate where
  | mhz19_2
  | mhz24
  deriving DecidableEq, Repr

/-- How often each supply and the external clock have been enabled, and the
level of the enable line. -/
structure Power where
  io : ℤ
  analog : ℤ
  core : ℤ
  xclk : ℤ
  enableGpio : Bool
  deriving DecidableEq, Repr

/-- The fields of `struct ov7251` that the modelled functions use, and the
device's power state. -/
structure Device where
  xclkRate : XclkRate
  linkFreqIdx : ℕ
  currentMode : Fin 3
  pad : PadState
  tries : ℕ → PadState
  hflip : Ctrl
  vflip : Ctrl
  exposure : Ctrl
  gain : Ctrl
  testPattern : Ctrl
  hblank : Ctrl
  vblank : Ctrl
  preIsp00 : BitVec 8
  timingFormat1 : BitVec 8
  timingFormat2 : BitVec 8
  pm : RuntimePm
  power : Power
  bus : Bus

/-- The writable controls, in the order in which `ov7251_init_ctrls` creates
them. -/
inductive CtrlId where
  | hflip
  | vflip
  | exposure
  | analogueGain
  | testPattern
  | vblank
  deriving DecidableEq, Repr

namespace Device

def hflipField : Field Device Ctrl :=
  ⟨(·.hflip), fun d c => { d with hflip := c }, fun _ _ => rfl⟩

def vflipField : Field Device Ctrl :=
  ⟨(·.vflip), fun d c => { d with vflip := c }, fun _ _ => rfl⟩

def exposureField : Field Device Ctrl :=
  ⟨(·.exposure), fun d c => { d with exposure := c }, fun _ _ => rfl⟩

def gainField : Field Device Ctrl :=
  ⟨(·.gain), fun d c => { d with gain := c }, fun _ _ => rfl⟩

def testPatternField : Field Device Ctrl :=
  ⟨(·.testPattern), fun d c => { d with testPattern := c }, fun _ _ => rfl⟩

def vblankField : Field Device Ctrl :=
  ⟨(·.vblank), fun d c => { d with vblank := c }, fun _ _ => rfl⟩

def pmField : Field Device RuntimePm :=
  ⟨(·.pm), fun d p => { d with pm := p }, fun _ _ => rfl⟩

def powerField : Field Device Power :=
  ⟨(·.power), fun d p => { d with power := p }, fun _ _ => rfl⟩

def busField : Field Device Bus :=
  ⟨(·.bus), fun d b => { d with bus := b }, fun _ _ => rfl⟩

end Device

open Device

/-- All of them. -/
def writableCtrls : List CtrlId :=
  [.hflip, .vflip, .exposure, .analogueGain, .testPattern, .vblank]

/-- The structure field that holds a control. -/
def ctrlField : CtrlId → Field Device Ctrl
  | .hflip => hflipField
  | .vflip => vflipField
  | .exposure => exposureField
  | .analogueGain => gainField
  | .testPattern => testPatternField
  | .vblank => vblankField

/-- The type that the control core gives a control. -/
def ctrlType : CtrlId → CtrlType
  | .hflip | .vflip => .boolean
  | .testPattern => .menu
  | .exposure | .analogueGain | .vblank => .integer

/-! ## Writing control values to the sensor -/

/-- `ov7251_write_reg`. -/
def writeReg (reg : ℕ) (val : BitVec 8) : Prog Device Fault Unit :=
  busWrite busField reg [val]

/-- `ov7251_write_seq_regs`: a register and at most three values fit the
transfer buffer. -/
def writeSeqRegs (reg : ℕ) (val : List (BitVec 8)) : Prog Device Fault Unit :=
  if 5 < 2 + val.length then
    Prog.raise (.errno .einval)
  else
    busWrite busField reg val

/-- `ov7251_set_exposure`, from register `0x3500` on. -/
def setExposure (exposure : ℤ) : Prog Device Fault Unit :=
  let v := BitVec.ofInt 32 exposure
  writeSeqRegs 0x3500
    [((v &&& 0xf000) >>> 12).setWidth 8, ((v &&& 0x0ff0) >>> 4).setWidth 8,
      ((v &&& 0x000f) <<< 4).setWidth 8]

/-- `ov7251_set_gain`, from register `0x350a` on. -/
def setGain (gain : ℤ) : Prog Device Fault Unit :=
  let v := BitVec.ofInt 32 gain
  writeSeqRegs 0x350a
    [((v &&& 0x0300) >>> 8).setWidth 8, (v &&& 0xff).setWidth 8]

/-- A flip or test pattern control: one bit of a register is changed in the
driver's copy, and the copy is kept if the write succeeds. -/
def setCachedBit (cache : Field Device (BitVec 8)) (reg : ℕ)
    (bit : BitVec 8) (value : ℤ) : Prog Device Fault Unit := do
  let old ← Prog.gets cache.get
  let val := if value ≠ 0 then old ||| bit else old &&& ~~~bit
  writeReg reg val
  Prog.modify fun d => cache.set d val

def timingFormat1Field : Field Device (BitVec 8) :=
  ⟨(·.timingFormat1), fun d v => { d with timingFormat1 := v },
    fun _ _ => rfl⟩

def timingFormat2Field : Field Device (BitVec 8) :=
  ⟨(·.timingFormat2), fun d v => { d with timingFormat2 := v },
    fun _ _ => rfl⟩

def preIsp00Field : Field Device (BitVec 8) :=
  ⟨(·.preIsp00), fun d v => { d with preIsp00 := v }, fun _ _ => rfl⟩

/-- `ov7251_set_hflip`: the mirror bit of `0x3821`. -/
def setHflip : ℤ → Prog Device Fault Unit :=
  setCachedBit timingFormat2Field 0x3821 0x04

/-- `ov7251_set_vflip`: the flip bit of `0x3820`. -/
def setVflip : ℤ → Prog Device Fault Unit :=
  setCachedBit timingFormat1Field 0x3820 0x04

/-- `ov7251_set_test_pattern`: the test pattern bit of `0x5e00`. -/
def setTestPattern : ℤ → Prog Device Fault Unit :=
  setCachedBit preIsp00Field 0x5e00 0x80

section Parameters

variable (par : Params)

/-- The height of the current mode. -/
def Device.height (d : Device) : ℤ := (modeInfoData par d.currentMode).height

@[simp] theorem Device.height_eq (d : Device) : d.height par = 480 := by
  simp [Device.height]

/-- `ov7251_vts_configure`, from register `0x380e` on. -/
def vtsConfigure (vblank : ℤ) : Prog Device Fault Unit := do
  let height ← Prog.gets (Device.height par)
  let vts := BitVec.ofInt 32 (height + vblank)
  writeSeqRegs 0x380e
    [((vts &&& 0xff00) >>> 8).setWidth 8, (vts &&& 0x00ff).setWidth 8]

/-! ## The control callback -/

/-- The switch of `ov7251_s_ctrl`. -/
def writeCtrl (id : CtrlId) (val : ℤ) : Prog Device Fault Unit :=
  match id with
  | .exposure => setExposure val
  | .analogueGain => setGain val
  | .testPattern => setTestPattern val
  | .hflip => setHflip val
  | .vflip => setVflip val
  | .vblank => vtsConfigure par val

/-- The second half of `ov7251_s_ctrl`: write the value to the sensor if it is
powered, under a reference of its own. -/
def applyCtrl (id : CtrlId) : Prog Device Fault Unit := do
  let inUse ← pmRuntimeGetIfInUse pmField
  if inUse then do
    let ctrl ← Prog.gets (ctrlField id).get
    Prog.tryFinally (fun _ => false) (writeCtrl par id ctrl.val)
      (pmRuntimePut pmField)
  else
    pure ()

/-- The margin between the exposure and the frame length. -/
def exposureMargin : ℤ :=
  if par.vtsBoost ≠ 0 ∧ par.winTiming = 0 then
    boostIntegrationMargin
  else
    integrationMargin

/-- The first half of `ov7251_s_ctrl` for `V4L2_CID_VBLANK`: the exposure range
follows the frame length.  The result of the range change is not looked at. -/
def adjustExposureRange : Prog Device Fault Unit := do
  let height ← Prog.gets (Device.height par)
  let vblank ← Prog.gets vblankField.get
  let exposure ← Prog.gets exposureField.get
  let exposureMax := height + vblank.val - exposureMargin par
  Prog.tryCatch
    (v4l2CtrlModifyRange exposureField (applyCtrl par .exposure)
      exposure.minimum exposureMax exposure.step
      (min exposure.val exposureMax))
    (fun _ => pure ())

/-- `ov7251_s_ctrl`.  The exposure control it may change from inside takes only
the second half. -/
def sCtrl (id : CtrlId) : Prog Device Fault Unit := do
  Prog.when (id = .vblank) (adjustExposureRange par)
  applyCtrl par id

/-- A control write from user space. -/
def writeControl (id : CtrlId) (v : ℤ) : Prog Device Fault Unit :=
  v4l2SCtrl (ctrlField id) (sCtrl par id) (ctrlType id) v

end Parameters

end Ov7251
end SurfaceCameras
