import SurfaceCameras.Ov7251.Frames

/-!
# Runs of the OV7251 driver with failing transfers

What user space, the media controller and power management do to the driver,
each call with its own outcomes of the transfers it makes.
-/

namespace SurfaceCameras
namespace Ov7251

open Kernel Device

/-- A call on the driver; `hasLed` is what `ov7251_has_ir_led` answers at it,
and `lost` what the registers read after a suspend. -/
inductive SysCall where
  | call (c : Call)
  | stream (hasLed enable : Bool)
  | autosuspend (lost : ℕ → BitVec 8)

/-- The device before a call whose transfers have these outcomes. -/
def Device.facing (d : Device) (outcomes : List Bool) : Device :=
  busField.update (fun b => { b with faults := outcomes }) d

section Parameters

variable (par : Params) (nearest : ℕ → ℕ → Fin 3)

/-- The device after a call, whatever the call returns. -/
def sysStep (d : Device) : List Bool × SysCall → Device
  | (outcomes, .call c) => step par nearest (d.facing outcomes) c
  | (outcomes, .stream hasLed enable) =>
      (sStream par hasLed enable (d.facing outcomes)).2
  | (outcomes, .autosuspend lost) => (autosuspend lost (d.facing outcomes)).2

theorem sysStep_stream (d : Device) (os : List Bool) (hasLed enable : Bool) :
    sysStep par nearest d (os, .stream hasLed enable) =
      (sStream par hasLed enable (d.facing os)).2 := rfl

end Parameters

@[simp] theorem facing_pm (d : Device) (os : List Bool) :
    (d.facing os).pm = d.pm := rfl

@[simp] theorem facing_currentMode (d : Device) (os : List Bool) :
    (d.facing os).currentMode = d.currentMode := rfl

@[simp] theorem facing_regs (d : Device) (os : List Bool) :
    (d.facing os).bus.regs = d.bus.regs := rfl

@[simp] theorem facing_faults (d : Device) (os : List Bool) :
    (d.facing os).bus.faults = os := rfl

end Ov7251
end SurfaceCameras
