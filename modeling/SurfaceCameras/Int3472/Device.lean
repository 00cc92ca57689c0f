import SurfaceCameras.Support.Program
import Mathlib.Logic.Function.Basic
import Mathlib.Data.BitVec

/-!
# What the discrete INT3472 driver works on

The record of one discrete INT3472 device, the description the firmware gives
of it, and the kernel calls that can fail.  The outcomes of these calls are a
list that a run spells out; past its end everything succeeds.  A run records
every call with its outcome, every descriptor `gpiod_get` returned and every
`gpiod_put`.
-/

namespace SurfaceCameras
namespace Int3472

/-- The error codes of the driver; `other` is any code it only passes on. -/
inductive Errno where
  | einval
  | enodev
  | enomem
  | ebusy
  | e2big
  | enospc
  | other (code : ℕ)
  deriving DecidableEq, Repr

/-! ## GPIO types -/

def gpioTypeReset : BitVec 8 := 0x00
def gpioTypePowerdown : BitVec 8 := 0x01
def gpioTypePower1 : BitVec 8 := 0x08
def gpioTypePowerEnable : BitVec 8 := 0x0b
def gpioTypeClkEnable : BitVec 8 := 0x0c
def gpioTypePrivacyLed : BitVec 8 := 0x0d
def gpioTypeHotplugDetect : BitVec 8 := 0x13

/-- What the platform header of the kernel defines. -/
structure Header where
  gpioTypeHandshake : BitVec 8
  maxSensorGpios : ℕ
  maxRegulators : ℕ
  maxLeds : ℕ
  gpioSupplyNameLength : ℕ
  gpioRegulatorEnableTime : ℕ
  /-- The kernel is 7.1 or newer and has an array of LEDs. -/
  manyLeds : Bool

/-! ## The firmware -/

/-- A GPIO I/O resource: the path of its controller and its pin. -/
structure AcpiGpio where
  path : String
  pin : ℕ
  deriving DecidableEq, Repr

inductive AcpiResource where
  | gpioIo (agpio : AcpiGpio)
  | other
  deriving DecidableEq, Repr

/-- The machine as ACPI and DMI describe it, and the module parameter. -/
structure Firmware where
  /-- `acpi_dev_name` of the companion of the platform device. -/
  companion : Option String
  sysVendor : String
  productVersion : String
  controlLogicType : ℕ
  clockSource : ℕ
  sensorHid : String
  sensorName : String
  /-- The clock speed in the sensor's SSDB buffer, zero if unreadable. -/
  mclkSpeed : ℕ
  resources : List AcpiResource
  /-- The integer that a function of the GPIO `_DSM` returns. -/
  gpioDsm : ℕ → Option (BitVec 64)
  /-- The clock `_DSM` is there. -/
  clkDsm : Bool
  /-- The device at a path and its name, if there is a handle and a device. -/
  acpiDev : String → Option (Option String)
  ov8865Pwr1ConId : String

/-! ## The device -/

/-- A descriptor, numbered by the `gpiod_get` that returned it. -/
abbrev Desc : Type := ℕ

/-- An entry of a GPIO lookup table. -/
structure GpiodLookup where
  chip : String
  pin : ℕ
  conId : String
  activeLow : Bool
  deriving DecidableEq, Repr

/-- A pointer that is null, an error or an object. -/
inductive Ptr (α : Type) where
  | null
  | err (e : Errno)
  | obj (a : α)
  deriving DecidableEq, Repr

structure Int3472Clock where
  clk : Ptr Unit := .null
  cl : Bool := false
  enaGpio : Option Desc := none
  frequency : ℕ := 0
  imgclkIndex : ℕ := 0

/-- A regulator; its registered device owns the enable descriptor. -/
structure GpioRegulator where
  supplyNameUpper : String := ""
  supplyMap : List (String × String) := []
  enableTime : ℕ := 0
  rdev : Ptr Desc := .null

structure Led where
  gpio : Option Desc := none
  classdev : Ptr Unit := .null
  /-- The lookup entry: consumer and connection. -/
  lookup : Option (String × String) := none

/-- `struct int3472_discrete_device`. -/
structure Device where
  ngpios : ℕ := 0
  nSensorGpios : ℕ := 0
  /-- `gpios.table`; an entry that was never written is all zero. -/
  table : ℕ → Option GpiodLookup := fun _ => none
  /-- The lookup table is registered, for this consumer. -/
  lookupFor : Option String := none
  nRegulatorGpios : ℕ := 0
  regulators : ℕ → GpioRegulator := fun _ => {}
  clock : Int3472Clock := {}
  pled : Led := {}
  nLeds : ℕ := 0
  leds : ℕ → Led := fun _ => {}
  avddSecondSensor : Option String := none

/-! ## Kernel calls -/

inductive KernelCall where
  | fillCldb
  | kzalloc
  | sensorAdev
  | evaluateCrs
  | endOfCrs
  | gpiodGet (entry : GpiodLookup)
  | kasprintf
  | clkRegister
  | clkdevCreate
  | ledDevice
  | ledClassdev
  | regulatorRegister (enaGpiod : Desc)
  deriving DecidableEq, Repr

structure World where
  dev : Device
  outcomes : List (Option Errno)
  /-- The calls made with their outcomes, latest first. -/
  calls : List (KernelCall × Option Errno)
  /-- The number of descriptors that `gpiod_get` returned. -/
  gotten : ℕ
  /-- The descriptors put, latest first. -/
  puts : List Desc

/-- Nothing is registered and no descriptor is out. -/
def World.initial (outcomes : List (Option Errno)) : World where
  dev := {}
  outcomes := outcomes
  calls := []
  gotten := 0
  puts := []

abbrev Kernel : Type → Type := Prog World Errno

open Prog

def setDev (f : Device → Device) : Kernel Unit :=
  modify fun w => { w with dev := f w.dev }

/-- Make a call and record its outcome. -/
def call (c : KernelCall) : Kernel (Option Errno) := fun w =>
  (.ok (w.outcomes.headD none),
    { w with
      outcomes := w.outcomes.tail
      calls := (c, w.outcomes.headD none) :: w.calls })

/-- A call whose error is passed on. -/
def attempt (c : KernelCall) : Kernel Unit := do
  match ← call c with
  | none => pure ()
  | some e => raise e

/-- A call that returns a null pointer when it fails. -/
def allocate (c : KernelCall) : Kernel Unit := do
  match ← call c with
  | none => pure ()
  | some _ => raise .enomem

def gpiodGet (entry : GpiodLookup) : Kernel Desc := do
  attempt (.gpiodGet entry)
  let d ← gets World.gotten
  modify fun w => { w with gotten := w.gotten + 1 }
  pure d

/-- `gpiod_put`; a null pointer is ignored. -/
def gpiodPut (d : Option Desc) : Kernel Unit :=
  modify fun w => { w with puts := d.toList ++ w.puts }

/-- `led_classdev_register`: what it leaves in the device pointer of the LED,
and its error.  Creating the device may fail, and so may what follows. -/
def ledClassdevRegister : Kernel (Ptr Unit × Option Errno) := do
  match ← call .ledDevice with
  | some e => pure (.err e, some e)
  | none =>
      match ← call .ledClassdev with
      | some e => pure (.null, some e)
      | none => pure (.obj (), none)

/-- `regulator_register`: the core takes the enable descriptor over and puts it
when the registration fails. -/
def regulatorRegister (enaGpiod : Desc) : Kernel (Ptr Desc) := do
  match ← call (.regulatorRegister enaGpiod) with
  | none => pure (.obj enaGpiod)
  | some e =>
      gpiodPut (some enaGpiod)
      pure (.err e)

/-- `regulator_unregister`: the core puts the enable descriptor. -/
def regulatorUnregister : Ptr Desc → Kernel Unit
  | .obj enaGpiod => gpiodPut (some enaGpiod)
  | _ => pure ()

end Int3472
end SurfaceCameras
