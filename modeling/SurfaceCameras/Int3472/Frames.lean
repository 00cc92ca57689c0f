import SurfaceCameras.Int3472.Descriptors

/-!
# What the helpers of the driver leave alone

Calling the kernel, and setting up a clock or an LED, touches neither the
lookup table nor the regulators.
-/

namespace SurfaceCameras
namespace Int3472

open Prog

/-- The frame allows to call the kernel, except for registering a regulator. -/
structure Calls (R : Frame World) : Prop where
  call : ∀ (w : World) (c : KernelCall) (o : Option Errno), c.Neutral →
    R.Rel w { w with
      outcomes := w.outcomes.tail
      calls := (c, o) :: w.calls }
  got : ∀ w : World, R.Rel w { w with gotten := w.gotten + 1 }
  put : ∀ (w : World) (ds : List Desc),
    R.Rel w { w with puts := ds ++ w.puts }

/-- The frame also allows to set up the clock and the LEDs. -/
structure Equips (R : Frame World) : Prop extends Calls R where
  clock : ∀ (w : World) (c : Int3472Clock),
    R.Rel w { w with dev := { w.dev with clock := c } }
  pled : ∀ (w : World) (l : Led),
    R.Rel w { w with dev := { w.dev with pled := l } }
  leds : ∀ (w : World) (n : ℕ) (ls : ℕ → Led),
    R.Rel w { w with dev := { w.dev with leds := ls, nLeds := n } }

/-- The frame also allows to register regulators and to map pins to the
sensor. -/
structure Maps (R : Frame World) : Prop extends Equips R where
  register : ∀ (w : World) (gpio : Desc) (o : Option Errno),
    R.Rel w { w with
      outcomes := w.outcomes.tail
      calls := (.regulatorRegister gpio, o) :: w.calls }
  regulators : ∀ (w : World) (n : ℕ) (rs : ℕ → GpioRegulator),
    R.Rel w { w with dev :=
      { w.dev with regulators := rs, nRegulatorGpios := n } }
  table : ∀ (w : World) (n : ℕ) (t : ℕ → Option GpiodLookup),
    R.Rel w { w with dev := { w.dev with table := t, nSensorGpios := n } }

/-- The program stays in the frame, whichever way it ends. -/
abbrev Framed {α : Type} (R : Frame World) (p : Kernel α) : Prop :=
  Keeps R (fun _ => True) p

section Calls

variable {R : Frame World} {S : Errno → Prop} (hR : Calls R)
include hR

theorem call_framed {c : KernelCall} (hc : c.Neutral) : Framed R (call c) :=
  fun _ w hw => R.trans hw (hR.call w c _ hc)

theorem attempt_framed {c : KernelCall} (hc : c.Neutral) :
    Framed R (attempt c) := by
  refine (call_framed hR hc).bind fun o => ?_
  cases o with
  | none => exact Keeps.pure ()
  | some e => exact Keeps.raise trivial

theorem allocate_framed {c : KernelCall} (hc : c.Neutral) :
    Framed R (allocate c) := by
  refine (call_framed hR hc).bind fun o => ?_
  cases o with
  | none => exact Keeps.pure ()
  | some e => exact Keeps.raise trivial

theorem gpiodPut_framed (d : Option Desc) : Keeps R S (gpiodPut d) :=
  Keeps.modify fun w => hR.put w d.toList

theorem ledClassdevRegister_framed : Framed R ledClassdevRegister := by
  refine (call_framed hR (c := .ledDevice) trivial).bind fun o => ?_
  cases o with
  | some e => exact Keeps.pure _
  | none =>
      refine (call_framed hR (c := .ledClassdev) trivial).bind fun o => ?_
      cases o with
      | some e => exact Keeps.pure _
      | none => exact Keeps.pure _

omit hR in
theorem fillGpiodLookup_framed (F : Firmware) (agpio : AcpiGpio)
    (conId : String) (activeLow : Bool) :
    Framed R (fillGpiodLookup F agpio conId activeLow) := by
  rw [fillGpiodLookup]
  split
  · exact Keeps.raise trivial
  · exact Keeps.raise trivial
  · exact Keeps.pure _

theorem gpiodGetFromTempLookup_framed (F : Firmware) (agpio : AcpiGpio)
    (conId : String) (activeLow : Bool) :
    Framed R (gpiodGetFromTempLookup F agpio conId activeLow) := by
  refine (allocate_framed hR (c := .kzalloc) trivial).bind fun _ => ?_
  refine (fillGpiodLookup_framed F agpio conId activeLow).bind fun entry => ?_
  refine (attempt_framed hR (c := .gpiodGet entry) trivial).bind fun _ => ?_
  refine (Keeps.gets _).bind fun d => ?_
  exact (Keeps.modify hR.got).bind fun _ => Keeps.pure d

theorem unregisterClock_framed : Keeps R S unregisterClock :=
  (Keeps.gets _).bind fun _ => Keeps.when (gpiodPut_framed hR _)

theorem unregisterLeds_framed (H : Header) :
    Keeps R S (if H.manyLeds then unregisterLeds else unregisterPled) := by
  apply Keeps.ite
  · refine (Keeps.gets _).bind fun d => Keeps.forEach _ fun i _ => ?_
    exact gpiodPut_framed hR _
  · exact (Keeps.gets _).bind fun pled => Keeps.when (gpiodPut_framed hR _)

end Calls

section Equips

variable {R : Frame World} (hR : Equips R) (H : Header) (F : Firmware)
  (gpio : Desc)
include hR

theorem setClock_framed (f : Int3472Clock → Int3472Clock) :
    Framed R (setClock f) :=
  Keeps.modify fun w => hR.clock w (f w.dev.clock)

theorem setPled_framed (f : Led → Led) : Framed R (setPled f) :=
  Keeps.modify fun w => hR.pled w (f w.dev.pled)

theorem setLed_framed (n : ℕ) (f : Led → Led) : Framed R (setLed n f) :=
  Keeps.modify fun w => hR.leds w w.dev.nLeds _

theorem registerClock_framed : Framed R (registerClock F) := by
  have hset := fun f => setClock_framed hR f
  refine (allocate_framed hR.toCalls (c := .kasprintf) trivial).bind
    fun _ => ?_
  refine (hset _).bind fun _ => ?_
  refine (call_framed hR.toCalls (c := .clkRegister) trivial).bind fun o => ?_
  cases o with
  | some e => exact (hset _).bind fun _ => Keeps.raise trivial
  | none =>
      refine (hset _).bind fun _ => ?_
      refine (call_framed hR.toCalls (c := .clkdevCreate) trivial).bind
        fun o => ?_
      cases o with
      | some e => exact (hset _).bind fun _ => Keeps.raise trivial
      | none => exact hset _

theorem registerDsmClock_framed : Framed R (registerDsmClock F) :=
  (Keeps.gets _).bind fun _ => Keeps.when (registerClock_framed hR F)

theorem registerGpioClock_framed : Framed R (registerGpioClock F gpio) := by
  refine (Keeps.gets _).bind fun cl => ?_
  refine (Keeps.when (Keeps.raise trivial)).bind fun _ => ?_
  exact (setClock_framed hR _).bind fun _ => registerClock_framed hR F

theorem registerLed_framed (conId : String) :
    Framed R (registerLed H F gpio conId) := by
  have hset := fun n f => setLed_framed hR n f
  refine (Keeps.gets _).bind fun n => ?_
  refine (Keeps.when (Keeps.raise trivial)).bind fun _ => ?_
  refine (hset n _).bind fun _ => ?_
  refine (ledClassdevRegister_framed hR.toCalls).bind fun r => ?_
  refine (hset n _).bind fun _ => ?_
  obtain ⟨classdev, ret⟩ := r
  cases ret with
  | some e => exact Keeps.raise trivial
  | none =>
      refine (hset n _).bind fun _ => ?_
      exact Keeps.modify fun w => hR.leds w _ _

theorem registerPled_framed : Framed R (registerPled F gpio) := by
  have hset := fun f => setPled_framed hR f
  refine (Keeps.gets _).bind fun pled => ?_
  refine (Keeps.when (Keeps.raise trivial)).bind fun _ => ?_
  refine (hset _).bind fun _ => ?_
  refine (ledClassdevRegister_framed hR.toCalls).bind fun r => ?_
  refine (hset _).bind fun _ => ?_
  obtain ⟨classdev, ret⟩ := r
  cases ret with
  | some e => exact Keeps.raise trivial
  | none => exact hset _

end Equips

section Maps

variable {R : Frame World} (hR : Maps R) (H : Header) (F : Firmware)
include hR

theorem registerRegulator_framed (gpio : Desc) (enableTime : ℕ)
    (supplyName : String) (secondSensor : Option String) :
    Framed R
      (registerRegulator H F gpio enableTime supplyName secondSensor) := by
  refine (Keeps.gets _).bind fun n => ?_
  refine (Keeps.when (Keeps.raise trivial)).bind fun _ => ?_
  refine (Keeps.when (Keeps.raise trivial)).bind fun _ => ?_
  have hcall : Framed R (call (.regulatorRegister gpio)) :=
    fun _ w hw => R.trans hw (hR.register w gpio _)
  have hregister : Framed R (regulatorRegister gpio) := by
    refine hcall.bind fun o => ?_
    cases o with
    | none => exact Keeps.pure _
    | some e =>
        exact (gpiodPut_framed hR.toCalls _).bind fun _ => Keeps.pure _
  refine hregister.bind fun rdev => ?_
  refine (Keeps.modify fun w => hR.regulators w _ _).bind fun _ => ?_
  cases rdev with
  | err e => exact Keeps.raise trivial
  | null => exact Keeps.modify fun w => hR.regulators w _ _
  | obj d => exact Keeps.modify fun w => hR.regulators w _ _

theorem registerGpio_framed (use : PinUse) (gpio : Desc) :
    Framed R (registerGpio H F use gpio) := by
  have hregulator := registerRegulator_framed hR H F gpio use.enableTime
    use.conId
  refine Keeps.ite (registerGpioClock_framed hR.toEquips F gpio) ?_
  refine Keeps.ite (Keeps.ite ?_ ?_) (Keeps.ite ?_ (hregulator none))
  · exact registerLed_framed hR.toEquips H F gpio "privacy"
  · exact registerPled_framed hR.toEquips F gpio
  · exact (Keeps.gets _).bind hregulator

theorem mapGpio_framed (agpio : AcpiGpio) (use : PinUse) :
    Framed R (mapGpio H F agpio use) := by
  refine Keeps.ite ?_ (Keeps.ite ?_ (Keeps.pure ()))
  · refine (Keeps.gets _).bind fun n => ?_
    refine (Keeps.when (Keeps.raise trivial)).bind fun _ => ?_
    refine (fillGpiodLookup_framed F agpio _ _).bind fun entry => ?_
    exact Keeps.modify fun w => hR.table w _ _
  · refine (gpiodGetFromTempLookup_framed hR.toCalls F agpio _ _).bind
      fun gpio => ?_
    apply Keeps.tryCatch (registerGpio_framed hR H F use gpio)
    exact fun e _ => (gpiodPut_framed hR.toCalls _).bind
      fun _ => Keeps.raise trivial

end Maps

end Int3472
end SurfaceCameras
