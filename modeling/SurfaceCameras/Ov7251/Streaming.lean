import SurfaceCameras.Ov7251.Format

/-!
# The OV7251 driver: power and streaming

Power-on and power-off, the PLL configuration, the IR illuminator and
`ov7251_s_stream`.
-/

namespace SurfaceCameras
namespace Ov7251

open Kernel Device

/-! ## Power -/

/-- Enable a clock or a supply; like a transfer, this can fail. -/
def tryEnable (enable : Power → Power) : Prog Device Fault Unit := do
  transfer busField
  Prog.modify (powerField.update enable)

def setPower (f : Power → Power) : Prog Device Fault Unit :=
  Prog.modify (powerField.update f)

/-- `ov7251_regulators_enable`. -/
def regulatorsEnable : Prog Device Fault Unit := do
  tryEnable fun p => { p with io := p.io + 1 }
  Prog.tryCatch (tryEnable fun p => { p with analog := p.analog + 1 })
    (fun e => do
      setPower fun p => { p with io := p.io - 1 }
      Prog.raise e)
  Prog.tryCatch (tryEnable fun p => { p with core := p.core + 1 })
    (fun e => do
      setPower fun p =>
        { p with analog := p.analog - 1, io := p.io - 1 }
      Prog.raise e)

/-- `ov7251_regulators_disable`. -/
def regulatorsDisable : Prog Device Fault Unit :=
  setPower fun p =>
    { p with core := p.core - 1, analog := p.analog - 1, io := p.io - 1 }

/-- `ov7251_set_register_array`. -/
def setRegisterArray : List RegValue → Prog Device Fault Unit :=
  Prog.forEach fun r => writeReg r.1 r.2

/-- `ov7251_set_power_on`. -/
def setPowerOn : Prog Device Fault Unit := do
  regulatorsEnable
  Prog.tryCatch (tryEnable fun p => { p with xclk := p.xclk + 1 })
    (fun e => do
      regulatorsDisable
      Prog.raise e)
  setPower fun p => { p with enableGpio := true }
  Prog.tryCatch (setRegisterArray globalInitSetting)
    (fun e => do
      setPower fun p => { p with enableGpio := false, xclk := p.xclk - 1 }
      regulatorsDisable
      Prog.raise e)

/-- `ov7251_set_power_off`. -/
def setPowerOff : Prog Device Fault Unit := do
  setPower fun p => { p with xclk := p.xclk - 1, enableGpio := false }
  regulatorsDisable

/-! ## Clocks -/

/-- `struct ov7251_pll1_cfg`. -/
structure Pll1Cfg where
  preDiv : BitVec 8
  mult : BitVec 8
  div : BitVec 8
  pixDiv : BitVec 8
  mipiDiv : BitVec 8

/-- `struct ov7251_pll2_cfg`. -/
structure Pll2Cfg where
  preDiv : BitVec 8
  mult : BitVec 8
  div : BitVec 8
  sysDiv : BitVec 8
  adcDiv : BitVec 8

/-- The `pll1` of `ov7251_pll_cfgs[]`, one entry for each link frequency. -/
def pll1Cfgs : XclkRate → List Pll1Cfg
  | .mhz19_2 =>
      [⟨0x03, 0x4b, 0x01, 0x0a, 0x05⟩, ⟨0x01, 0x85, 0x04, 0x0a, 0x05⟩]
  | .mhz24 =>
      [⟨0x03, 0x64, 0x01, 0x0a, 0x05⟩, ⟨0x05, 0x85, 0x02, 0x0a, 0x05⟩]

/-- The `pll2` of `ov7251_pll_cfgs[]`. -/
def pll2Cfg : XclkRate → Pll2Cfg
  | .mhz19_2 => ⟨0x04, 0x32, 0x00, 0x05, 0x04⟩
  | .mhz24 => ⟨0x04, 0x28, 0x00, 0x05, 0x04⟩

section Parameters

variable (par : Params)

/-- The registers `ov7251_pll_configure` writes.  An index past the end of the
table would read what lies behind it; zeroes stand for that. -/
def pllRegs (rate : XclkRate) (linkFreqIdx : ℕ) : List RegValue :=
  let pll1 := (pll1Cfgs rate).getD linkFreqIdx ⟨0, 0, 0, 0, 0⟩
  let pll2 := pll2Cfg rate
  [(0x30b4, pll1.preDiv), (0x30b3, pll1.mult), (0x30b1, pll1.div),
   (0x30b0, pll1.pixDiv),
   (0x30b5, if par.winTiming ≠ 0 then 0x01 else pll1.mipiDiv),
   (0x3098, pll2.preDiv), (0x3099, pll2.mult), (0x309d, pll2.div),
   (0x309a, pll2.sysDiv), (0x309b, pll2.adcDiv)]

/-- `ov7251_pll_configure`. -/
def pllConfigure : Prog Device Fault Unit := do
  let rate ← Prog.gets Device.xclkRate
  let idx ← Prog.gets Device.linkFreqIdx
  setRegisterArray (pllRegs par rate idx)

/-! ## The illuminator -/

/-- `ov7251_has_ir_led`: the module parameter `ir_led`, or the match of the
ACPI id where it is negative. -/
def hasIrLed (irLed : ℤ) (acpiMatch : Bool) : Bool :=
  if 0 ≤ irLed then irLed != 0 else acpiMatch

/-- `ov7251_ir_led_set`. -/
def irLedSet (hasLed on : Bool) : Prog Device Fault Unit :=
  Prog.when (hasLed = true) (do
    writeReg 0x3005 (if on then 0x08 else 0)
    writeReg 0x3b81 (if on then 0xff else 0xa5))

/-! ## Streaming -/

/-- `__v4l2_ctrl_handler_setup` on the driver's controls. -/
def handlerSetup : Prog Device Fault Unit :=
  v4l2CtrlHandlerSetup
    (writableCtrls.map fun id => (ctrlField id, sCtrl par id))

/-- `ov7251_s_stream`; `hasLed` is what `ov7251_has_ir_led` answers. -/
def sStream (hasLed enable : Bool) : Prog Device Fault Unit :=
  match enable with
  | true => do
      pmRuntimeResumeAndGet pmField setPowerOn
      Prog.tryCatch
        (do
          pllConfigure par
          let mode ← Prog.gets Device.currentMode
          setRegisterArray (modeInfoData par mode).data
          handlerSetup par
          writeReg 0x0100 0x1
          irLedSet hasLed true)
        (fun e => do
          pmRuntimePut pmField
          Prog.raise e)
  | false => do
      Prog.tryCatch (irLedSet hasLed false) (fun _ => pure ())
      Prog.tryFinally (fun _ => false) (writeReg 0x0100 0x0)
        (pmRuntimePut pmField)

/-- The autosuspend timer goes off, which is a runtime suspend if nobody holds
the device.  `lost` is what the registers read once the sensor is powered
again. -/
def autosuspend (lost : ℕ → BitVec 8) : Prog Device Fault Unit := do
  let pm ← Prog.gets Device.pm
  if pm.active = true ∧ pm.usage = 0 then do
    setPowerOff
    Prog.modify (busField.update fun b => { b with regs := lost })
    Prog.modify (pmField.update RuntimePm.suspend)
  else
    Prog.modify (pmField.update RuntimePm.expire)

end Parameters

end Ov7251
end SurfaceCameras
