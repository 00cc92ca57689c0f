import SurfaceCameras.Int3472.Discrete
import SurfaceCameras.Support.History

/-!
# What the driver does with its resources

The driver keeps counters and tables, and forgets which resource an entry comes
from.  A lifetime is run here beside a journal of the resources it has handled,
of the ones it has mapped to the sensor, of the regulators it has unregistered,
and of the tables as they were found between two resources and on cleaning up.
-/

namespace SurfaceCameras
namespace Int3472

open Prog

/-- A GPIO I/O resource that the driver has handled, and the `_DSM` function it
was configured from, if that returned an integer. -/
structure Handled where
  agpio : AcpiGpio
  function : Option ℕ
  deriving DecidableEq

/-- The regulators registered so far, oldest first, by their descriptors. -/
def registeredOf (calls : List (KernelCall × Option Errno)) : List Desc :=
  (calls.filterMap fun
    | (.regulatorRegister d, none) => some d
    | _ => none).reverse

/-- The tables of the driver at one point, and what belongs in them. -/
structure Point where
  dev : Device
  mapped : List (AcpiGpio × PinUse)
  registered : List Desc

structure Journal where
  handled : List Handled
  /-- The resources mapped to the sensor, with what they are for. -/
  mapped : List (AcpiGpio × PinUse)
  points : List Point
  unregistered : List (Ptr Desc)

namespace Journal

def empty : Journal := ⟨[], [], [], []⟩

def handle (agpio : AcpiGpio) (function : Option ℕ) (j : Journal) : Journal :=
  { j with handled := j.handled ++ [⟨agpio, function⟩] }

def map (agpio : AcpiGpio) (use : PinUse) (j : Journal) : Journal :=
  { j with mapped := j.mapped ++ [(agpio, use)] }

def visit (w : World) (j : Journal) : Journal :=
  { j with points := j.points ++ [⟨w.dev, j.mapped, registeredOf w.calls⟩] }

def unregister (rdev : Ptr Desc) (j : Journal) : Journal :=
  { j with unregistered := j.unregistered ++ [rdev] }

end Journal

/-- The pin belongs to the sensor itself. -/
def PinUse.ForSensor (use : PinUse) : Prop :=
  use.type = gpioTypeReset ∨ use.type = gpioTypePowerdown ∨
    use.type = gpioTypeHotplugDetect

instance (use : PinUse) : Decidable use.ForSensor :=
  inferInstanceAs (Decidable (_ ∨ _ ∨ _))

/-! ## A lifetime beside its journal -/

abbrev Recorded (α : Type) : Type := Prog (World × Journal) Errno α

section Recording

variable (H : Header) (F : Firmware)

/-- A pin that was mapped to the sensor goes into the journal. -/
def recordMapGpio (agpio : AcpiGpio) (use : PinUse) : Recorded Unit := do
  beside (mapGpio H F agpio use)
  record fun _ j => if use.ForSensor then j.map agpio use else j

def recordHandleGpioResources (ares : AcpiResource) : Recorded Unit := do
  record Journal.visit
  match ares with
  | .other => pure ()
  | .gpioIo agpio => do
      let ngpios ← gets fun s : World × Journal => s.1.dev.ngpios
      match F.gpioDsm (ngpios + 2) with
      | none => record fun _ j => j.handle agpio none
      | some value => do
          record fun _ j => j.handle agpio (some (ngpios + 2))
          tryFinally (fun _ => false)
            (recordMapGpio H F agpio (pinUse H F value))
            (beside (setDev fun d => { d with ngpios := d.ngpios + 1 }))

def recordGetResources : Recorded Unit := do
  beside (attempt .evaluateCrs)
  forEach (recordHandleGpioResources H F) F.resources
  beside (attempt .endOfCrs)

def recordParseCrs : Recorded Unit := do
  recordGetResources H F
  beside (registerDsmClock F)
  beside (setDev fun d => { d with lookupFor := some F.sensorName })

def recordUnregisterRegulator : Recorded Unit := do
  let d ← gets fun s : World × Journal => s.1.dev
  forEach
    (fun i => do
      record fun _ j => j.unregister (d.regulators i).rdev
      beside (regulatorUnregister (d.regulators i).rdev))
    (List.range d.nRegulatorGpios)

def recordCleanup : Recorded Unit := do
  record Journal.visit
  beside (setDev fun d => { d with lookupFor := none })
  beside unregisterClock
  beside (if H.manyLeds then unregisterLeds else unregisterPled)
  recordUnregisterRegulator

def recordProbe : Recorded Unit := do
  beside (when (F.companion = none) (raise .enodev))
  beside (attempt .fillCldb)
  beside (when (F.controlLogicType ≠ 1) (raise .einval))
  beside (allocate .kzalloc)
  beside (setDev fun _ =>
    { clock := { imgclkIndex := F.clockSource }
      avddSecondSensor := discreteQuirks F })
  beside (attempt .sensorAdev)
  unwinding (recordCleanup H) (recordParseCrs H F)

def recordLifetime : Recorded Unit := do
  recordProbe H F
  recordCleanup H

end Recording

/-! ## The journal changes nothing -/

section Erasure

variable {H : Header} {F : Firmware}

theorem recordMapGpio_erases (agpio : AcpiGpio) (use : PinUse) :
    Erases (recordMapGpio H F agpio use) (mapGpio H F agpio use) :=
  Erases.bind_record (Erases.beside _)

theorem recordHandleGpioResources_erases (ares : AcpiResource) :
    Erases (recordHandleGpioResources H F ares)
      (handleGpioResources H F ares) := by
  apply Erases.record_bind
  cases ares with
  | other => exact Erases.pure ()
  | gpioIo agpio =>
      apply Erases.bind (Erases.gets fun w : World => w.dev.ngpios)
      intro ngpios
      cases F.gpioDsm (ngpios + 2) with
      | none => exact Erases.bind_record (Erases.pure ())
      | some value =>
          apply Erases.record_bind
          exact Erases.tryFinally (recordMapGpio_erases agpio _)
            (Erases.beside _)

theorem recordParseCrs_erases :
    Erases (recordParseCrs H F) (parseCrs H F) := by
  have hget : Erases (recordGetResources H F) (getResources H F) := by
    apply Erases.bind (Erases.beside _)
    intro _
    apply Erases.bind (Erases.forEach recordHandleGpioResources_erases _)
    exact fun _ => Erases.beside _
  apply Erases.bind hget
  intro _
  apply Erases.bind (Erases.beside _)
  exact fun _ => Erases.beside _

theorem recordCleanup_erases : Erases (recordCleanup H) (cleanup H) := by
  apply Erases.record_bind
  apply Erases.bind (Erases.beside _)
  intro _
  apply Erases.bind (Erases.beside _)
  intro _
  apply Erases.bind (Erases.beside _)
  intro _
  apply Erases.bind (Erases.gets World.dev)
  intro d
  apply Erases.forEach
  exact fun i => Erases.record_bind (Erases.beside _)

theorem recordProbe_erases : Erases (recordProbe H F) (probe H F) := by
  apply Erases.bind (Erases.beside _)
  intro _
  apply Erases.bind (Erases.beside _)
  intro _
  apply Erases.bind (Erases.beside _)
  intro _
  apply Erases.bind (Erases.beside _)
  intro _
  apply Erases.bind (Erases.beside _)
  intro _
  apply Erases.bind (Erases.beside _)
  intro _
  exact Erases.unwinding recordCleanup_erases recordParseCrs_erases

theorem recordLifetime_erases : Erases (recordLifetime H F) (lifetime H F) :=
  Erases.bind recordProbe_erases fun _ => recordCleanup_erases

end Erasure

end Int3472
end SurfaceCameras
