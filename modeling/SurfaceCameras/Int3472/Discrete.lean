import SurfaceCameras.Int3472.Device
import Mathlib.Data.List.Infix

/-!
# The discrete INT3472 driver

Probing walks the GPIO resources of the device.  Each resource is described by
a `_DSM` function and is either mapped to the sensor or turned into a clock, an
LED or a regulator.
-/

namespace SurfaceCameras
namespace Int3472

open Prog

/-! ## Clock -/

section Clock

variable (F : Firmware)

def setClock (f : Int3472Clock → Int3472Clock) : Kernel Unit :=
  setDev fun d => { d with clock := f d.clock }

def registerClock : Kernel Unit := do
  allocate .kasprintf
  setClock fun c => { c with frequency := F.mclkSpeed }
  match ← call .clkRegister with
  | some e =>
      setClock fun c => { c with clk := .err e }
      raise e
  | none =>
      setClock fun c => { c with clk := .obj () }
      match ← call .clkdevCreate with
      | some _ =>
          setClock fun c => { c with cl := false }
          raise .enomem
      | none => setClock fun c => { c with cl := true }

def registerDsmClock : Kernel Unit := do
  let cl ← gets fun w => w.dev.clock.cl
  when (cl = false ∧ F.clkDsm = true) (registerClock F)

def registerGpioClock (gpio : Desc) : Kernel Unit := do
  let cl ← gets fun w => w.dev.clock.cl
  when (cl = true) (raise .ebusy)
  setClock fun c => { c with enaGpio := some gpio }
  registerClock F

def unregisterClock : Kernel Unit := do
  let clock ← gets fun w => w.dev.clock
  when (clock.cl = true) (gpiodPut clock.enaGpio)

end Clock

/-! ## LEDs -/

section Leds

variable (H : Header) (F : Firmware)

def setLed (n : ℕ) (f : Led → Led) : Kernel Unit :=
  setDev fun d => { d with leds := Function.update d.leds n (f (d.leds n)) }

def setPled (f : Led → Led) : Kernel Unit :=
  setDev fun d => { d with pled := f d.pled }

/-- `skl_int3472_register_led`, for kernels with an array of LEDs. -/
def registerLed (gpio : Desc) (conId : String) : Kernel Unit := do
  let n ← gets fun w => w.dev.nLeds
  when (H.maxLeds ≤ n) (raise .enospc)
  setLed n fun l => { l with gpio := some gpio }
  let (classdev, ret) ← ledClassdevRegister
  setLed n fun l => { l with classdev := classdev }
  match ret with
  | some e => raise e
  | none =>
      setLed n fun l => { l with lookup := some (F.sensorName, conId) }
      setDev fun d => { d with nLeds := d.nLeds + 1 }

def unregisterLeds : Kernel Unit := do
  let d ← gets World.dev
  forEach (fun i => gpiodPut (d.leds i).gpio) (List.range d.nLeds)

/-- `skl_int3472_register_pled`, for kernels with the one privacy LED. -/
def registerPled (gpio : Desc) : Kernel Unit := do
  let pled ← gets fun w => w.dev.pled
  when (pled.classdev ≠ .null) (raise .ebusy)
  setPled fun l => { l with gpio := some gpio }
  let (classdev, ret) ← ledClassdevRegister
  setPled fun l => { l with classdev := classdev }
  match ret with
  | some e => raise e
  | none => setPled fun l => { l with lookup := some (F.sensorName, "privacy") }

def unregisterPled : Kernel Unit := do
  let pled ← gets fun w => w.dev.pled
  when (pled.classdev = .obj ()) (gpiodPut pled.gpio)

end Leds

/-! ## Regulators -/

section Regulators

variable (H : Header) (F : Firmware)

/-- The supply under its own and its upper-case name, for the sensor and for a
second sensor that shares it. -/
def supplyMap (supplyName : String) (secondSensor : Option String) :
    List (String × String) :=
  [supplyName, supplyName.toUpper].flatMap fun supply =>
    (supply, F.sensorName) :: (secondSensor.toList.map fun dev => (supply, dev))

def setRegulator (n : ℕ) (r : GpioRegulator) : Kernel Unit :=
  setDev fun d => { d with regulators := Function.update d.regulators n r }

def registerRegulator (gpio : Desc) (enableTime : ℕ) (supplyName : String)
    (secondSensor : Option String) : Kernel Unit := do
  let n ← gets fun w => w.dev.nRegulatorGpios
  when (H.maxRegulators ≤ n) (raise .einval)
  when (H.gpioSupplyNameLength ≤ supplyName.utf8ByteSize) (raise .e2big)
  let rdev ← regulatorRegister gpio
  setRegulator n
    { supplyNameUpper := supplyName.toUpper
      supplyMap := supplyMap F supplyName secondSensor
      enableTime := enableTime
      rdev := rdev }
  match rdev with
  | .err e => raise e
  | _ => setDev fun d => { d with nRegulatorGpios := d.nRegulatorGpios + 1 }

def unregisterRegulator : Kernel Unit := do
  let d ← gets World.dev
  forEach (fun i => regulatorUnregister (d.regulators i).rdev)
    (List.range d.nRegulatorGpios)

end Regulators

/-! ## GPIO resources -/

section Resources

variable (H : Header) (F : Firmware)

/-- The lookup entry for a resource, if its controller is there. -/
def fillGpiodLookup (agpio : AcpiGpio) (conId : String) (activeLow : Bool) :
    Kernel GpiodLookup :=
  match F.acpiDev agpio.path with
  | none => raise .einval
  | some none => raise .enodev
  | some (some name) => pure ⟨name, agpio.pin, conId, activeLow⟩

def mapGpioToSensor (agpio : AcpiGpio) (conId : String) (activeLow : Bool) :
    Kernel Unit := do
  let n ← gets fun w => w.dev.nSensorGpios
  when (H.maxSensorGpios ≤ n) (raise .einval)
  let entry ← fillGpiodLookup F agpio conId activeLow
  setDev fun d => { d with
    table := Function.update d.table n (some entry)
    nSensorGpios := d.nSensorGpios + 1 }

def gpiodGetFromTempLookup (agpio : AcpiGpio) (conId : String)
    (activeLow : Bool) : Kernel Desc := do
  allocate .kzalloc
  let entry ← fillGpiodLookup F agpio conId activeLow
  gpiodGet entry

/-- `struct int3472_gpio_map`. -/
structure GpioMap where
  hid : String
  typeFrom : BitVec 8
  typeTo : BitVec 8
  polarityLow : Bool := false
  enableTimeUs : ℕ := 0
  conId : String

def int3472GpioMap : List GpioMap :=
  [ { hid := "INT33F0"
      typeFrom := gpioTypePowerdown
      typeTo := gpioTypePowerEnable
      conId := "vdd"
      enableTimeUs := H.gpioRegulatorEnableTime },
    { hid := "INT347E"
      typeFrom := gpioTypeReset
      typeTo := gpioTypeReset
      conId := "enable" },
    { hid := "INT347E"
      typeFrom := gpioTypePowerEnable
      typeTo := gpioTypePowerEnable
      conId := "vdda"
      enableTimeUs := H.gpioRegulatorEnableTime },
    { hid := "OVTI08F4"
      typeFrom := H.gpioTypeHandshake
      typeTo := H.gpioTypeHandshake
      conId := "dvdd"
      enableTimeUs := 45 * 1000 } ]

/-- What a pin is for: its type, connection, polarity and enable time. -/
structure PinUse where
  type : BitVec 8
  conId : String
  activeLow : Bool
  enableTime : ℕ
  deriving DecidableEq, Repr

def getConIdAndPolarity (type : BitVec 8) : PinUse :=
  match (int3472GpioMap H).find?
      fun m => type == m.typeFrom && F.sensorHid == m.hid with
  | some m => ⟨m.typeTo, m.conId, m.polarityLow, m.enableTimeUs⟩
  | none =>
      let enableTime := H.gpioRegulatorEnableTime
      if type = gpioTypeReset then ⟨type, "reset", true, enableTime⟩
      else if type = gpioTypePowerdown then
        ⟨type, "powerdown", true, enableTime⟩
      else if type = gpioTypeClkEnable then
        ⟨type, "clk-enable", false, enableTime⟩
      else if type = gpioTypePrivacyLed then
        ⟨type, "privacy-led", false, enableTime⟩
      else if type = gpioTypeHotplugDetect then ⟨type, "hpd", false, enableTime⟩
      else if type = gpioTypePowerEnable then ⟨type, "avdd", false, enableTime⟩
      else if type = gpioTypePower1 then
        ⟨type, F.ov8865Pwr1ConId, false, enableTime⟩
      else if type = H.gpioTypeHandshake then ⟨type, "dvdd", false, 25 * 1000⟩
      else ⟨type, "unknown", false, enableTime⟩

def dsmType (value : BitVec 64) : BitVec 8 := value.extractLsb' 0 8

def dsmSensorOnVal (value : BitVec 64) : BitVec 8 := value.extractLsb' 24 8

/-- What a `_DSM` value says about a pin; a pin that is on at zero has the
opposite polarity. -/
def pinUse (value : BitVec 64) : PinUse :=
  let use := getConIdAndPolarity H F (dsmType value)
  if dsmSensorOnVal value = 0 then { use with activeLow := !use.activeLow }
  else use

/-- Hand a descriptor to the clock, the LED or the regulator it is for. -/
def registerGpio (use : PinUse) (gpio : Desc) : Kernel Unit :=
  if use.type = gpioTypeClkEnable then registerGpioClock F gpio
  else if use.type = gpioTypePrivacyLed then
    if H.manyLeds then registerLed H F gpio "privacy" else registerPled F gpio
  else if use.type = gpioTypePowerEnable then do
    let secondSensor ← gets fun w => w.dev.avddSecondSensor
    registerRegulator H F gpio use.enableTime use.conId secondSensor
  else registerRegulator H F gpio use.enableTime use.conId none

/-- The switch over the type of a pin; an unknown type is skipped. -/
def mapGpio (agpio : AcpiGpio) (use : PinUse) : Kernel Unit :=
  if use.type = gpioTypeReset ∨ use.type = gpioTypePowerdown ∨
      use.type = gpioTypeHotplugDetect then
    mapGpioToSensor H F agpio use.conId use.activeLow
  else if use.type = gpioTypeClkEnable ∨ use.type = gpioTypePrivacyLed ∨
      use.type = gpioTypePowerEnable ∨ use.type = gpioTypePower1 ∨
      use.type = H.gpioTypeHandshake then do
    let gpio ← gpiodGetFromTempLookup F agpio use.conId use.activeLow
    unwinding (gpiodPut (some gpio)) (registerGpio H F use gpio)
  else pure ()

def handleGpioResources : AcpiResource → Kernel Unit
  | .other => pure ()
  | .gpioIo agpio => do
      -- The first `_DSM` function is a count, and the index is 1-based.
      let ngpios ← gets fun w => w.dev.ngpios
      match F.gpioDsm (ngpios + 2) with
      | none => pure ()
      | some value =>
          tryFinally (fun _ => false) (mapGpio H F agpio (pinUse H F value))
            (setDev fun d => { d with ngpios := d.ngpios + 1 })

/-- `acpi_dev_get_resources` with the callback of the driver. -/
def getResources : Kernel Unit := do
  attempt .evaluateCrs
  forEach (handleGpioResources H F) F.resources
  attempt .endOfCrs

end Resources

/-! ## Probe and remove -/

section Probe

variable (H : Header) (F : Firmware)

def parseCrs : Kernel Unit := do
  getResources H F
  registerDsmClock F
  setDev fun d => { d with lookupFor := some F.sensorName }

def cleanup : Kernel Unit := do
  setDev fun d => { d with lookupFor := none }
  unregisterClock
  (if H.manyLeds then unregisterLeds else unregisterPled)
  unregisterRegulator

def remove : Kernel Unit := cleanup H

/-- `skl_int3472_discrete_quirks`: the second sensor on the `avdd` supply. -/
def discreteQuirks : Option String :=
  if "LENOVO".toList <:+: F.sysVendor.toList ∧
      "MIIX 510-12IKB".toList <:+: F.productVersion.toList then
    some "i2c-OVTI2680:00"
  else none

def probe : Kernel Unit := do
  when (F.companion = none) (raise .enodev)
  attempt .fillCldb
  when (F.controlLogicType ≠ 1) (raise .einval)
  allocate .kzalloc
  setDev fun _ =>
    { clock := { imgclkIndex := F.clockSource }
      avddSecondSensor := discreteQuirks F }
  attempt .sensorAdev
  unwinding (remove H) (parseCrs H F)

/-- A device from its probe to its removal; after a failed probe there is
nothing to remove. -/
def lifetime : Kernel Unit := do
  probe H F
  remove H

end Probe

end Int3472
end SurfaceCameras
