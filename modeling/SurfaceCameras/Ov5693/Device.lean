import SurfaceCameras.Kernel.Sensor
import SurfaceCameras.Kernel.Subdev
import SurfaceCameras.Ov5693.RegisterTables

/-!
# The OV5693 driver: device state and controls

`struct ov5693_device` with its mode and controls, the control callback
`ov5693_s_ctrl` and the functions that bring a control value to the sensor.
-/

namespace SurfaceCameras
namespace Ov5693

open Kernel

def nativeWidth : ℕ := 2624
def nativeHeight : ℕ := 1956
def activeWidth : ℕ := 2592
def activeHeight : ℕ := 1944
def activeStartLeft : ℤ := 16
def activeStartTop : ℤ := 6
def minCropWidth : ℕ := 2
def minCropHeight : ℕ := 2
def fixedPpl : ℕ := 2688
def timingMaxVts : ℕ := 0xffff
def timingMinVts : ℤ := 4
def integrationTimeMargin : ℤ := 8
def pixelRate : ℕ := 167680000
def mediaBusFmtSbggr10 : ℕ := 0x3007

/-- `struct ov5693_mode`. -/
structure Mode where
  crop : Rect
  format : MbusFramefmt
  binningX : Bool
  binningY : Bool
  incXOdd : ℕ
  incYOdd : ℕ
  vts : ℕ
  deriving DecidableEq, Repr

/-- Some axis of the readout is binned. -/
def Mode.binned (m : Mode) : Bool := m.binningX || m.binningY

/-- Clock, supplies and GPIO lines of the sensor: how often each has been
enabled, and what the lines are set to. -/
structure Power where
  reset : Bool
  powerdown : Bool
  xvclk : ℤ
  supplies : Fin 3 → ℤ

/-- The fields of `struct ov5693_device` that the modelled functions use, the
format and crop of every open file handle, and the device's power state. -/
structure Device where
  mode : Mode
  tries : ℕ → PadState
  exposure : Ctrl
  analogueGain : Ctrl
  digitalGain : Ctrl
  hflip : Ctrl
  vflip : Ctrl
  hblank : Ctrl
  vblank : Ctrl
  testPattern : Ctrl
  pm : RuntimePm
  power : Power

/-- The driver and its sensor. -/
abbrev System : Type := Machine Device

/-- The controls with a driver callback. -/
inductive CtrlId where
  | exposure
  | analogueGain
  | digitalGain
  | hflip
  | vflip
  | hblank
  | vblank
  | testPattern
  deriving DecidableEq, Repr

namespace Device

def exposureField : Field Device Ctrl :=
  ⟨(·.exposure), fun d c => { d with exposure := c }, fun _ _ => rfl⟩

def analogueGainField : Field Device Ctrl :=
  ⟨(·.analogueGain), fun d c => { d with analogueGain := c }, fun _ _ => rfl⟩

def digitalGainField : Field Device Ctrl :=
  ⟨(·.digitalGain), fun d c => { d with digitalGain := c }, fun _ _ => rfl⟩

def hflipField : Field Device Ctrl :=
  ⟨(·.hflip), fun d c => { d with hflip := c }, fun _ _ => rfl⟩

def vflipField : Field Device Ctrl :=
  ⟨(·.vflip), fun d c => { d with vflip := c }, fun _ _ => rfl⟩

def hblankField : Field Device Ctrl :=
  ⟨(·.hblank), fun d c => { d with hblank := c }, fun _ _ => rfl⟩

def vblankField : Field Device Ctrl :=
  ⟨(·.vblank), fun d c => { d with vblank := c }, fun _ _ => rfl⟩

def testPatternField : Field Device Ctrl :=
  ⟨(·.testPattern), fun d c => { d with testPattern := c }, fun _ _ => rfl⟩

def pmField : Field Device RuntimePm :=
  ⟨(·.pm), fun d p => { d with pm := p }, fun _ _ => rfl⟩

def powerField : Field Device Power :=
  ⟨(·.power), fun d p => { d with power := p }, fun _ _ => rfl⟩

def modeField : Field Device Mode :=
  ⟨(·.mode), fun d m => { d with mode := m }, fun _ _ => rfl⟩

end Device

open Device

/-- The structure field that holds a control. -/
def ctrlField : CtrlId → Field Device Ctrl
  | .exposure => exposureField
  | .analogueGain => analogueGainField
  | .digitalGain => digitalGainField
  | .hflip => hflipField
  | .vflip => vflipField
  | .hblank => hblankField
  | .vblank => vblankField
  | .testPattern => testPatternField

/-- The type that the control core gives a control. -/
def ctrlType : CtrlId → CtrlType
  | .hflip | .vflip => .boolean
  | .testPattern => .menu
  | .exposure | .analogueGain | .digitalGain | .hblank | .vblank => .integer

/-! ## Writing control values to the sensor -/

/-- `ov5693_test_pattern_bits[]`. -/
def testPatternBits : List (BitVec 8) := [0, 0x81, 0x80, 0xc0]

/-- `ov5693_flip_vert_bits`. -/
def flipVertBits (m : Mode) : BitVec 8 :=
  if m.binningY then
    format1FlipVertSensorEn
  else
    format1FlipVertIspEn ||| format1FlipVertSensorEn

/-- Both vertical flip bits of `FORMAT1`. -/
def flipVertMask : BitVec 8 := format1FlipVertIspEn ||| format1FlipVertSensorEn

/-- Both horizontal flip bits of `FORMAT2`. -/
def flipHorzMask : BitVec 8 := format2FlipHorzIspEn ||| format2FlipHorzSensorEn

/-- `ov5693_flip_vert_configure`. -/
def flipVertConfigure (enable : Bool) : Prog System Fault Unit := do
  let mode ← Prog.gets fun s => s.dev.mode
  cciUpdateBits format1Reg flipVertMask
    (if enable then flipVertBits mode else 0)

/-- `ov5693_offset_start_x`. -/
def offsetStartX (m : Mode) (hflip : Bool) : ℕ :=
  if m.binned then 8 else if hflip then 1 else 0

/-- `ov5693_flip_horz_configure`. -/
def flipHorzConfigure (enable : Bool) : Prog System Fault Unit := do
  cciUpdateBits format2Reg flipHorzMask (if enable then 0 else flipHorzMask)
  let mode ← Prog.gets fun s => s.dev.mode
  cciWrite offsetStartXReg 2 (offsetStartX mode enable)

/-- `ov5693_exposure_configure`. -/
def exposureConfigure (exposure : ℤ) : Prog System Fault Unit :=
  cciWrite exposureCtrlReg 3
    ((BitVec.ofInt 32 exposure <<< 4) &&& 0xffff0#32).toNat

/-- `ov5693_digital_gain_configure`. -/
def digitalGainConfigure (gain : ℤ) : Prog System Fault Unit := do
  let gain := (BitVec.ofInt 32 gain &&& 0xfff#32).toNat
  cciWrite mwbRedGainReg 2 gain
  cciWrite mwbGreenGainReg 2 gain
  cciWrite mwbBlueGainReg 2 gain

/-- `ov5693_analog_gain_configure`. -/
def analogGainConfigure (gain : ℤ) : Prog System Fault Unit :=
  cciWrite gainCtrlReg 2 ((BitVec.ofInt 32 gain <<< 4) &&& 0x7f0#32).toNat

/-- `ov5693_vts_configure`. -/
def vtsConfigure (vblank : ℤ) : Prog System Fault Unit := do
  let height ← Prog.gets fun s => s.dev.mode.format.height
  cciWrite timingVtsReg 2 (height + vblank)

/-- `ov5693_test_pattern_configure`. -/
def testPatternConfigure (idx : ℤ) : Prog System Fault Unit :=
  cciWrite testPatternReg 1 (testPatternBits.getD idx.toNat 0).toNat

/-! ## The control callback -/

/-- The switch of `ov5693_s_ctrl`; it has no case for the horizontal
blanking. -/
def writeCtrl (id : CtrlId) (val : ℤ) : Prog System Fault Unit :=
  match id with
  | .exposure => exposureConfigure val
  | .analogueGain => analogGainConfigure val
  | .digitalGain => digitalGainConfigure val
  | .hflip => flipHorzConfigure (val != 0)
  | .vflip => flipVertConfigure (val != 0)
  | .vblank => vtsConfigure val
  | .testPattern => testPatternConfigure val
  | .hblank => Prog.raise (.errno .einval)

/-- The second half of `ov5693_s_ctrl`: write the value to the sensor if it is
powered, under a reference of its own. -/
def applyCtrl (id : CtrlId) : Prog System Fault Unit := do
  let inUse ← pmRuntimeGetIfInUse pmField.ofDev
  if inUse then do
    let ctrl ← Prog.gets fun s => (ctrlField id).get s.dev
    Prog.tryFinally (fun _ => false) (writeCtrl id ctrl.val)
      (pmRuntimePut pmField.ofDev)
  else
    pure ()

/-- Set the upper end of the exposure range; its result is not looked at. -/
def limitExposure (exposureMax : ℤ) : Prog System Fault Unit := do
  let exposure ← Prog.gets fun s => s.dev.exposure
  ignoreErrno
    (v4l2CtrlModifyRange exposureField.ofDev (applyCtrl .exposure)
      exposure.minimum exposureMax exposure.step
      (min exposure.val exposureMax))

/-- `ov5693_s_ctrl`.  The exposure control it may change from inside takes only
the second half. -/
def sCtrl (id : CtrlId) : Prog System Fault Unit := do
  Prog.when (id = .vblank) (do
    let exposureMax ← Prog.gets fun s =>
      (s.dev.mode.format.height : ℤ) + s.dev.vblank.val - integrationTimeMargin
    limitExposure exposureMax)
  applyCtrl id

/-- A control write from user space; the horizontal blanking is read-only. -/
def writeControl (id : CtrlId) (v : ℤ) : Prog System Fault Unit :=
  if id = .hblank then
    Prog.raise (.errno .eacces)
  else
    v4l2SCtrl (ctrlField id).ofDev (sCtrl id) (ctrlType id) v

/-- The writable controls, in the order in which `ov5693_init_controls` creates
them. -/
def writableCtrls : List CtrlId :=
  [.exposure, .analogueGain, .digitalGain, .hflip, .vflip, .vblank,
    .testPattern]

end Ov5693
end SurfaceCameras
