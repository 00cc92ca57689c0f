import SurfaceCameras.Ov5693.Format
import SurfaceCameras.Support.Runs

/-!
# The OV5693 driver: power and streaming

Power-up and power-down, the registers programmed on a runtime resume,
`ov5693_s_stream`, the state `ov5693_probe` leaves, and the calls that act on
the driver from then on.
-/

namespace SurfaceCameras
namespace Ov5693

open Kernel Device FixedWidth

/-! ## Power -/

/-- `ov5693_sensor_powerdown`. -/
def sensorPowerdown : Prog System Fault Unit :=
  Prog.modify (powerField.ofDev.update fun p =>
    { p with
      reset := true
      powerdown := true
      supplies := fun i => p.supplies i - 1
      xvclk := p.xvclk - 1 })

/-- Enable a clock or supplies; like a transfer, this can fail. -/
def tryEnable (enable : Power → Power) : Prog System Fault Unit := do
  transfer Machine.busField
  Prog.modify (powerField.ofDev.update enable)

/-- `ov5693_sensor_powerup`. -/
def sensorPowerup : Prog System Fault Unit := do
  Prog.modify (powerField.ofDev.update fun p =>
    { p with reset := true, powerdown := true })
  Prog.tryCatch
    (do
      tryEnable fun p => { p with xvclk := p.xvclk + 1 }
      tryEnable fun p => { p with supplies := fun i => p.supplies i + 1 })
    (fun e => do
      sensorPowerdown
      Prog.raise e)
  Prog.modify (powerField.ofDev.update fun p =>
    { p with powerdown := false, reset := false })

section Parameters

variable (binnedYOffset : ℤ)

/-! ## Programming the mode -/

/-- The first register of the readout and the last, on one axis. -/
def readoutStart (m : Mode) (origin : ℤ) : ℤ := if m.binned then 0 else origin

def readoutEnd (m : Mode) (origin : ℤ) (size native : ℕ) : ℤ :=
  if m.binned then native - 1 else origin + size

/-- `ov5693_mode_configure`. -/
def modeConfigure : Prog System Fault Unit := do
  let mode ← Prog.gets fun s => s.dev.mode
  let hflip ← Prog.gets fun s => s.dev.hflip.val
  let vflip ← Prog.gets fun s => s.dev.vflip.val
  cciWrite cropStartXReg 2 (readoutStart mode mode.crop.left)
  cciWrite offsetStartXReg 2 (offsetStartX mode (hflip != 0))
  cciWrite outputSizeXReg 2 mode.format.width
  cciWrite cropEndXReg 2
    (readoutEnd mode mode.crop.left mode.crop.width nativeWidth)
  cciWrite timingHtsReg 2 fixedPpl
  cciWrite cropStartYReg 2 (readoutStart mode mode.crop.top)
  cciWrite offsetStartYReg 2 (if mode.binned then binnedYOffset else 0)
  cciWrite outputSizeYReg 2 mode.format.height
  cciWrite cropEndYReg 2
    (readoutEnd mode mode.crop.top mode.crop.height nativeHeight)
  cciWrite subIncXReg 1 (((BitVec.ofNat 8 mode.incXOdd <<< 4) ||| 1).toNat)
  cciWrite subIncYReg 1 (((BitVec.ofNat 8 mode.incYOdd <<< 4) ||| 1).toNat)
  cciUpdateBits format1Reg format1VbinEn
    (if mode.binningY then format1VbinEn else 0)
  cciUpdateBits format2Reg format2HbinEn
    (if mode.binningX then format2HbinEn else 0)
  Prog.when (vflip ≠ 0)
    (cciUpdateBits format1Reg flipVertMask (flipVertBits mode))
  cciMultiRegWrite (if mode.binned then modeBinnedRegs else modeFullRegs)

/-- `ov5693_enable_streaming`. -/
def enableStreaming (enable : Bool) : Prog System Fault Unit := do
  Prog.when (enable = true) (cciWrite mipiCtrl00Reg 1 0x2d)
  cciWrite swStreamReg 1 (if enable then 1 else 0)

/-- `ov5693_sensor_init`, with the software reset it starts with. -/
def sensorInit : Prog System Fault Unit := do
  cciWrite swResetReg 1 1
  cciMultiRegWrite globalRegs
  modeConfigure binnedYOffset
  enableStreaming false

/-- `ov5693_sensor_resume`. -/
def sensorResume : Prog System Fault Unit := do
  sensorPowerup
  Prog.tryCatch (sensorInit binnedYOffset)
    (fun e => do
      sensorPowerdown
      Prog.raise e)

/-! ## Streaming -/

/-- `__v4l2_ctrl_handler_setup` on the driver's controls. -/
def handlerSetup : Prog System Fault Unit :=
  v4l2CtrlHandlerSetup
    (writableCtrls.map fun id => ((ctrlField id).ofDev, sCtrl id))

/-- The failure path of `ov5693_s_stream`. -/
def dropReference (e : Fault) : Prog System Fault Unit := do
  pmRuntimePutNoidle pmField.ofDev
  Prog.raise e

/-- `ov5693_s_stream`. -/
def sStream (enable : Bool) : Prog System Fault Unit :=
  match enable with
  | true => do
      pmRuntimeResumeAndGet pmField.ofDev (sensorResume binnedYOffset)
      Prog.tryCatch
        (do
          handlerSetup
          enableStreaming true)
        dropReference
  | false => do
      Prog.tryCatch (enableStreaming false) dropReference
      pmRuntimePut pmField.ofDev

/-- The autosuspend timer goes off, which is a runtime suspend if nobody holds
the device.  `lost` is what the registers read once the sensor is powered
again. -/
def autosuspend (lost : ℕ → BitVec 8) : Prog System Fault Unit := do
  let pm ← Prog.gets fun s => s.dev.pm
  if pm.active = true ∧ pm.usage = 0 then do
    sensorPowerdown
    Prog.modify fun s => { s with bus := { s.bus with regs := lost } }
    Prog.modify (pmField.ofDev.update RuntimePm.suspend)
  else
    Prog.modify (pmField.ofDev.update RuntimePm.expire)

/-! ## The state after probe -/

def defaultCrop : Rect :=
  ⟨activeStartLeft, activeStartTop, activeWidth, activeHeight⟩

def defaultFmt : MbusFramefmt :=
  ⟨activeWidth, activeHeight, mediaBusFmtSbggr10, 0, 0, 0, 0, 0⟩

/-- `ov5693_init_controls`, on the writable controls and the horizontal
blanking. -/
def initControls (d : Device) : Device :=
  let exposureMax : ℤ := d.mode.vts - integrationTimeMargin
  let hblank : ℤ := fixedPpl - d.mode.format.width
  { d with
    exposure := Ctrl.newStd 1 exposureMax 1 exposureMax
    analogueGain := Ctrl.newStd 1 127 1 8
    digitalGain := Ctrl.newStd 1 4095 1 1024
    hflip := Ctrl.newStd 0 1 1 0
    vflip := Ctrl.newStd 0 1 1 0
    hblank := Ctrl.newStd hblank hblank 1 hblank
    vblank := Ctrl.newStd timingMinVts (timingMaxVts - d.mode.format.height) 1
      (d.mode.vts - d.mode.format.height)
    testPattern := Ctrl.newStd 0 3 1 0 }

/-- A device structure of zeroes with the default crop and format. -/
def blank : Device :=
  let zero := Ctrl.newStd 0 0 0 0
  { mode := ⟨defaultCrop, defaultFmt, false, false, 0, 0, 0⟩
    tries := fun _ => PadState.zero
    exposure := zero
    analogueGain := zero
    digitalGain := zero
    hflip := zero
    vflip := zero
    hblank := zero
    vblank := zero
    testPattern := zero
    pm := ⟨false, 0, false⟩
    power := ⟨false, false, 0, fun _ => 0⟩ }

/-- `ov5693_probe` from the default format on.  The chip is powered and
identified but not initialised; the last reference is dropped at the end. -/
def setup : Prog System Fault Unit := do
  let vts ← calcVts defaultFmt.height
  Prog.modify (modeField.ofDev.update fun m => { m with vts := vts })
  Prog.modify fun s => { s with dev := initControls s.dev }
  sensorPowerup
  Prog.modify (pmField.ofDev.update fun _ => ⟨true, 0, true⟩)

/-- The system after a successful `ov5693_probe`, for a sensor whose registers
read `regs` after power-on. -/
def probe (regs : ℕ → BitVec 8) : System := (setup ⟨blank, ⟨regs, []⟩⟩).2

/-! ## Runs -/

/-- What can happen to the driver; `write` is a control write from user
space. -/
inductive Call where
  | setFmt (which : Which) (width height : BitVec 32)
  | setSelection (which : Which) (target : SelTarget) (r : RectRequest)
  | write (id : CtrlId) (v : ℤ)
  | sStream (enable : Bool)
  | autosuspend (lost : ℕ → BitVec 8)

/-- The system after a call, whatever the call returns. -/
def step (s : System) : Call → System
  | .setFmt which w h => (Ov5693.setFmt which w h s).2
  | .setSelection which target r => (Ov5693.setSelection which target r s).2
  | .write id v => (writeControl id v s).2
  | .sStream enable => (Ov5693.sStream binnedYOffset enable s).2
  | .autosuspend lost => (Ov5693.autosuspend lost s).2

end Parameters

end Ov5693
end SurfaceCameras
