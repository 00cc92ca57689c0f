import SurfaceCameras.Int3472.Discrete
import SurfaceCameras.Support.Custody

/-!
# Who puts a descriptor

A descriptor that `gpiod_get` returned is first in the hands of the resource
handler, then of the clock, the LED or the regulator it was registered for,
until that is unregistered.  Every function keeps the account of this custody.
The regulator core takes a descriptor over when it is called and puts it if the
registration fails; the handler, which still counts the descriptor as its own,
then puts it again.
-/

namespace SurfaceCameras
namespace Int3472

open Prog Custody

/-! ## The account -/

/-- The descriptors that the regulator core put although they were still
counted as the handler's. -/
def straysOf (calls : List (KernelCall × Option Errno)) : List Desc :=
  calls.filterMap fun
    | (.regulatorRegister d, some _) => some d
    | _ => none

/-- What the account of the descriptors is about. -/
structure Books where
  dev : Device
  puts : List Desc
  strays : List Desc
  gotten : ℕ

def World.books (w : World) : Books :=
  ⟨w.dev, w.puts, straysOf w.calls, w.gotten⟩

def Int3472Clock.held (c : Int3472Clock) : List Desc :=
  if c.cl then c.enaGpio.toList else []

/-- The descriptor a registered regulator owns. -/
def Ptr.owned : Ptr Desc → List Desc
  | .obj d => [d]
  | _ => []

namespace Device

def ledsHeld (H : Header) (d : Device) : List Desc :=
  if H.manyLeds then slots (fun i => (d.leds i).gpio.toList) d.nLeds
  else if d.pled.classdev = .obj () then d.pled.gpio.toList else []

def regulatorsHeld (d : Device) : List Desc :=
  slots (fun i => (d.regulators i).rdev.owned) d.nRegulatorGpios

/-- The descriptors that cleaning up the device puts. -/
def held (H : Header) (d : Device) : List Desc :=
  d.clock.held ++ (d.ledsHeld H ++ d.regulatorsHeld)

/-- A descriptor is only kept for a clock that is registered. -/
def ClockClean (d : Device) : Prop :=
  d.clock.cl = false → d.clock.enaGpio = none

end Device

namespace Device

variable (H : Header) (d : Device)

theorem held_writeLed (l : Led) :
    { d with leds := Function.update d.leds d.nLeds l }.held H = d.held H := by
  have hslots := slots_update (fun l : Led => l.gpio.toList) d.leds d.nLeds l
  simp only [held, ledsHeld, regulatorsHeld, hslots]

theorem held_writeRegulator (r : GpioRegulator) :
    { d with regulators :=
      Function.update d.regulators d.nRegulatorGpios r }.held H = d.held H := by
  have hslots := slots_update (fun r : GpioRegulator => r.rdev.owned)
    d.regulators d.nRegulatorGpios r
  simp only [held, ledsHeld, regulatorsHeld, hslots]

theorem held_countLed (hmany : H.manyLeds = true) {gpio : Desc}
    (hled : (d.leds d.nLeds).gpio = some gpio) :
    (gpio :: d.held H).Perm ({ d with nLeds := d.nLeds + 1 }.held H) := by
  simp only [held, ledsHeld, regulatorsHeld, hmany, if_true, slots_succ, hled,
    Option.toList_some]
  rw [List.append_assoc, ← List.append_assoc, ← List.append_assoc]
  exact List.perm_middle.symm

theorem held_countRegulator {gpio : Desc}
    (hreg : (d.regulators d.nRegulatorGpios).rdev = .obj gpio) :
    (gpio :: d.held H).Perm
      ({ d with nRegulatorGpios := d.nRegulatorGpios + 1 }.held H) := by
  simp only [held, ledsHeld, regulatorsHeld, slots_succ, hreg, Ptr.owned]
  rw [← List.append_assoc, ← List.append_assoc, ← List.append_assoc]
  exact (List.perm_append_singleton gpio _).symm

end Device

/-- Besides the device, `extra` is in somebody's hands. -/
def Owing (H : Header) (extra : List Desc) (b : Books) : Prop :=
  Balanced (extra ++ b.dev.held H) b.puts b.strays b.gotten

/-- Between two resources the device has everything. -/
structure Settled (H : Header) (b : Books) : Prop where
  owing : Owing H [] b
  clean : b.dev.ClockClean

/-- Every descriptor that `gpiod_get` returned was put exactly once. -/
def PutOnce (w : World) : Prop := ∀ d < w.gotten, w.puts.count d = 1

instance (w : World) : Decidable (PutOnce w) :=
  inferInstanceAs (Decidable (∀ d < w.gotten, _))

/-! ## What the operations do to the account -/

section Operations

variable {P : Books → Prop}

/-- The call is not the one that takes a descriptor over. -/
def KernelCall.Neutral : KernelCall → Prop
  | .regulatorRegister _ => False
  | _ => True

theorem call_books {c : KernelCall} (hc : c.Neutral) (w : World) :
    (call c w).2.books = w.books := by
  have hstrays : straysOf ((c, w.outcomes.headD none) :: w.calls) =
      straysOf w.calls := by
    cases c with
    | regulatorRegister d => exact hc.elim
    | _ => rfl
  simp only [call, World.books, hstrays]

theorem call_keeps (c : KernelCall) (hc : c.Neutral) {E : Errno → World → Prop} :
    Triple (fun w => P w.books) (call c) (fun _ w => P w.books) E := by
  intro w hw
  change P (call c w).2.books
  rw [call_books hc]
  exact hw

theorem attempt_keeps (c : KernelCall) (hc : c.Neutral) :
    Triple (fun w => P w.books) (attempt c) (fun _ w => P w.books)
      (fun _ w => P w.books) := by
  apply Triple.bind (Q := fun _ w => P w.books)
  · exact call_keeps c hc
  · intro r
    cases r with
    | none => exact Triple.pure fun _ h => h
    | some e => exact Triple.raise fun _ h => h

theorem allocate_keeps (c : KernelCall) (hc : c.Neutral) :
    Triple (fun w => P w.books) (allocate c) (fun _ w => P w.books)
      (fun _ w => P w.books) := by
  apply Triple.bind (Q := fun _ w => P w.books)
  · exact call_keeps c hc
  · intro r
    cases r with
    | none => exact Triple.pure fun _ h => h
    | some e => exact Triple.raise fun _ h => h

theorem setDev_spec {f : Device → Device} {Q : Books → Prop}
    (h : ∀ b, P b → Q { b with dev := f b.dev }) {E : Errno → World → Prop} :
    Triple (fun w => P w.books) (setDev f) (fun _ w => Q w.books) E :=
  Triple.modify fun w hw => h w.books hw

theorem gpiodPut_spec {H : Header} {d : Desc} {E : Errno → World → Prop} :
    Triple (fun w => Owing H [d] w.books) (gpiodPut (some d))
      (fun _ w => Owing H [] w.books) E :=
  Triple.modify fun _ hw => Balanced.release [d] hw

theorem gpiodGet_spec {H : Header} (entry : GpiodLookup) :
    Triple (fun w => Settled H w.books) (gpiodGet entry)
      (fun d w => Owing H [d] w.books ∧ w.dev.ClockClean)
      (fun _ w => Settled H w.books) := by
  apply Triple.bind (Q := fun _ w => Settled H w.books)
  · exact attempt_keeps (.gpiodGet entry) trivial
  · intro _ w hw
    exact ⟨hw.owing.acquire, hw.clean⟩

end Operations

/-! ## What a descriptor is registered for -/

section Registering

variable {H : Header} {F : Firmware} {gpio : Desc}

/-- The clock is not registered and has been given `o`. -/
structure Unclocked (H : Header) (o : Option Desc) (b : Books) : Prop where
  owing : Owing H o.toList b
  cl : b.dev.clock.cl = false
  enaGpio : b.dev.clock.enaGpio = o

/-- Anything but the lookup entry and the enable descriptor of the clock may
be set. -/
theorem Unclocked.setClock {o : Option Desc} {f : Int3472Clock → Int3472Clock}
    (hf : ∀ c, c.cl = false →
      (f c).cl = false ∧ (f c).enaGpio = c.enaGpio)
    {E : Errno → World → Prop} :
    Triple (fun w => Unclocked H o w.books) (setClock f)
      (fun _ w => Unclocked H o w.books) E := by
  refine setDev_spec (P := Unclocked H o) fun b hb => ?_
  obtain ⟨hcl, hgpio⟩ := hf b.dev.clock hb.cl
  refine ⟨?_, hcl, hgpio.trans hb.enaGpio⟩
  have howing := hb.owing
  simp only [Owing, Device.held, Int3472Clock.held, hb.cl] at howing
  simp only [Owing, Device.held, Int3472Clock.held, hcl]
  exact howing

theorem registerClock_spec {o : Option Desc} :
    Triple (fun w => Unclocked H o w.books) (registerClock F)
      (fun _ w => Settled H w.books) (fun _ w => Owing H o.toList w.books) := by
  have hfail : ∀ e, Triple (fun w => Unclocked H o w.books)
      (raise e : Kernel Unit) (fun _ w => Settled H w.books)
      (fun _ w => Owing H o.toList w.books) :=
    fun e => Triple.raise fun w hw => hw.owing
  apply Triple.bind (Q := fun _ w => Unclocked H o w.books)
  · exact (allocate_keeps (P := Unclocked H o) .kasprintf trivial).consequence
      (fun _ h => h) (fun _ _ h => h) fun _ _ h => h.owing
  intro _
  apply Triple.bind (Q := fun _ w => Unclocked H o w.books)
  · apply Unclocked.setClock
    exact fun _ hc => ⟨hc, rfl⟩
  intro _
  apply Triple.bind (Q := fun _ w => Unclocked H o w.books)
  · exact call_keeps .clkRegister trivial
  rintro (_ | e)
  · apply Triple.bind (Q := fun _ w => Unclocked H o w.books)
    · apply Unclocked.setClock
      exact fun _ hc => ⟨hc, rfl⟩
    intro _
    apply Triple.bind (Q := fun _ w => Unclocked H o w.books)
    · exact call_keeps .clkdevCreate trivial
    rintro (_ | e)
    · refine setDev_spec (P := Unclocked H o) fun b hb => ⟨?_, fun h => by cases h⟩
      -- The registered clock now holds what was in the caller's hands.
      have howing := hb.owing
      simp only [Owing, Device.held, Int3472Clock.held, hb.cl] at howing
      simp only [Owing, Device.held, Int3472Clock.held, hb.enaGpio]
      exact howing
    · apply Triple.bind (Q := fun _ w => Unclocked H o w.books)
      · apply Unclocked.setClock
        exact fun _ _ => ⟨rfl, rfl⟩
      · exact fun _ => hfail _
  · apply Triple.bind (Q := fun _ w => Unclocked H o w.books)
    · apply Unclocked.setClock
      exact fun _ hc => ⟨hc, rfl⟩
    · exact fun _ => hfail _

theorem registerDsmClock_spec :
    Triple (fun w => Settled H w.books) (registerDsmClock F)
      (fun _ w => Settled H w.books) (fun _ w => Owing H [] w.books) := by
  apply Triple.gets_bind
  intro cl
  apply Triple.when
  · rintro ⟨rfl, -⟩
    refine (registerClock_spec (o := none)).strengthenPre ?_
    rintro w ⟨hw, hcl⟩
    exact ⟨hw.owing, hcl, hw.clean hcl⟩
  · exact fun _ w hw => hw.1

/-- A descriptor in the caller's hands goes to the device, or stays there when
the registration fails. -/
def Registers (H : Header) (gpio : Desc) (p : Kernel Unit) : Prop :=
  Triple (fun w => Owing H [gpio] w.books ∧ w.dev.ClockClean) p
    (fun _ w => Settled H w.books) (fun _ w => Owing H [gpio] w.books)

theorem registerGpioClock_registers :
    Registers H gpio (registerGpioClock F gpio) := by
  apply Triple.gets_bind
  intro cl
  apply Triple.bind (Q := fun _ w =>
    Owing H [gpio] w.books ∧ w.dev.clock.cl = false)
  · apply Triple.when
    · exact fun _ => Triple.raise fun w hw => hw.1.1
    · intro hcl w hw
      exact ⟨hw.1.1, hw.2.trans (by simpa using hcl)⟩
  intro _
  apply Triple.bind (Q := fun _ w => Unclocked H (some gpio) w.books)
  · refine setDev_spec
      (P := fun b => Owing H [gpio] b ∧ b.dev.clock.cl = false) ?_
    rintro b ⟨howing, hcl⟩
    refine ⟨?_, hcl, rfl⟩
    simp only [Owing, Device.held, Int3472Clock.held, hcl] at howing ⊢
    exact howing
  · exact fun _ => registerClock_spec

theorem ledClassdevRegister_keeps {P : Books → Prop} {E : Errno → World → Prop} :
    Triple (fun w => P w.books) ledClassdevRegister
      (fun r w => P w.books ∧ (r.1 = .obj () ↔ r.2 = none)) E := by
  apply Triple.bind (Q := fun _ w => P w.books)
  · exact call_keeps .ledDevice trivial
  rintro (_ | e)
  · apply Triple.bind (Q := fun _ w => P w.books)
    · exact call_keeps .ledClassdev trivial
    rintro (_ | e)
    · exact Triple.pure fun w hw => ⟨hw, by simp⟩
    · exact Triple.pure fun w hw => ⟨hw, by simp⟩
  · exact Triple.pure fun w hw => ⟨hw, by simp⟩

/-- The `n`-th LED is the next one. -/
structure NextLed (H : Header) (gpio : Desc) (n : ℕ) (b : Books) : Prop where
  owing : Owing H [gpio] b
  clean : b.dev.ClockClean
  count : b.dev.nLeds = n

/-- The descriptor stands in the `n`-th LED, which does not count yet. -/
structure InLed (H : Header) (gpio : Desc) (n : ℕ) (b : Books) : Prop
    extends NextLed H gpio n b where
  placed : (b.dev.leds n).gpio = some gpio

section Led

variable {n : ℕ} {f : Led → Led} {E : Errno → World → Prop}

theorem NextLed.setLed :
    Triple (fun w => NextLed H gpio n w.books) (setLed n f)
      (fun _ w => NextLed H gpio n w.books ∧
        ∃ l, w.dev.leds n = f l) E := by
  refine setDev_spec (P := NextLed H gpio n)
    (Q := fun b => NextLed H gpio n b ∧ ∃ l, b.dev.leds n = f l) ?_
  rintro b ⟨howing, hclean, rfl⟩
  refine ⟨⟨?_, hclean, rfl⟩, b.dev.leds b.dev.nLeds, Function.update_self ..⟩
  simp only [Owing, Device.held_writeLed]
  exact howing

theorem InLed.setLed (hf : ∀ l, (f l).gpio = l.gpio) :
    Triple (fun w => InLed H gpio n w.books) (setLed n f)
      (fun _ w => InLed H gpio n w.books) E := by
  refine setDev_spec (P := InLed H gpio n) ?_
  rintro b ⟨⟨howing, hclean, rfl⟩, hplaced⟩
  refine ⟨⟨?_, hclean, rfl⟩, ?_⟩
  · simp only [Owing, Device.held_writeLed]
    exact howing
  · simp only [Function.update_self, hf, hplaced]

theorem registerLed_registers (hmany : H.manyLeds = true) (conId : String) :
    Registers H gpio (registerLed H F gpio conId) := by
  apply Triple.gets_bind
  intro n
  apply Triple.bind (Q := fun _ w => NextLed H gpio n w.books)
  · apply Triple.when
    · exact fun _ => Triple.raise fun w hw => hw.1.1
    · exact fun _ w hw => ⟨hw.1.1, hw.1.2, hw.2⟩
  intro _
  apply Triple.bind (Q := fun _ w => InLed H gpio n w.books)
  · refine NextLed.setLed.consequence (fun _ h => h) ?_ fun _ _ h => h
    rintro _ w ⟨hw, l, hl⟩
    exact ⟨hw, congrArg Led.gpio hl⟩
  intro _
  apply Triple.bind (Q := fun _ w => InLed H gpio n w.books)
  · exact (ledClassdevRegister_keeps (P := InLed H gpio n)).consequence
      (fun _ h => h) (fun _ _ h => h.1) fun _ _ h => h
  rintro ⟨classdev, ret⟩
  apply Triple.bind (Q := fun _ w => InLed H gpio n w.books)
  · apply InLed.setLed
    exact fun _ => rfl
  intro _
  cases ret with
  | some e => exact Triple.raise fun w hw => hw.owing
  | none =>
      apply Triple.bind (Q := fun _ w => InLed H gpio n w.books)
      · apply InLed.setLed
        exact fun _ => rfl
      intro _
      refine setDev_spec (P := InLed H gpio n) ?_
      rintro b ⟨⟨howing, hclean, rfl⟩, hplaced⟩
      exact ⟨howing.rearrange (b.dev.held_countLed H hmany hplaced), hclean⟩

end Led

/-- The privacy LED is not registered. -/
structure NoPled (H : Header) (gpio : Desc) (b : Books) : Prop where
  owing : Owing H [gpio] b
  clean : b.dev.ClockClean
  classdev : b.dev.pled.classdev ≠ .obj ()

theorem NoPled.write {b : Books} (hb : NoPled H gpio b) {l : Led}
    (hl : l.classdev ≠ .obj ()) :
    NoPled H gpio { b with dev := { b.dev with pled := l } } := by
  refine ⟨?_, hb.clean, hl⟩
  have howing := hb.owing
  simp only [Owing, Device.held, Device.ledsHeld, hb.classdev, if_false]
    at howing
  simp only [Owing, Device.held, Device.ledsHeld, hl, if_false]
  exact howing

theorem NoPled.register (hone : H.manyLeds = false) {b : Books}
    (hb : NoPled H gpio b) {l : Led} (hl : l.classdev = .obj ())
    (hgpio : l.gpio = some gpio) :
    Settled H { b with dev := { b.dev with pled := l } } := by
  refine ⟨?_, hb.clean⟩
  refine Balanced.rearrange hb.owing ?_
  simp only [Device.held, Device.ledsHeld, Device.regulatorsHeld, hone, hl,
    hgpio, hb.classdev, if_false, if_true, Bool.false_eq_true,
    Option.toList_some, List.nil_append, List.singleton_append]
  exact List.perm_middle.symm

theorem registerPled_registers (hone : H.manyLeds = false) :
    Registers H gpio (registerPled F gpio) := by
  apply Triple.gets_bind
  intro pled
  apply Triple.bind (Q := fun _ w => NoPled H gpio w.books)
  · apply Triple.when
    · exact fun _ => Triple.raise fun w hw => hw.1.1
    · rintro hnull w ⟨⟨howing, hclean⟩, rfl⟩
      refine ⟨howing, hclean, ?_⟩
      change w.dev.pled.classdev ≠ .obj ()
      rw [not_not.mp hnull]
      exact fun h => by cases h
  intro _
  apply Triple.bind (Q := fun _ w =>
    NoPled H gpio w.books ∧ w.dev.pled.gpio = some gpio)
  · exact setDev_spec (P := NoPled H gpio)
      (Q := fun b => NoPled H gpio b ∧ b.dev.pled.gpio = some gpio)
      fun b hb => ⟨hb.write (l := { b.dev.pled with gpio := some gpio })
        hb.classdev, rfl⟩
  intro _
  apply Triple.bind (Q := fun r w =>
    (NoPled H gpio w.books ∧ w.dev.pled.gpio = some gpio) ∧
      (r.1 = .obj () ↔ r.2 = none))
  · exact ledClassdevRegister_keeps (P := fun b =>
      NoPled H gpio b ∧ b.dev.pled.gpio = some gpio)
  rintro ⟨classdev, ret⟩
  apply Triple.of_fact
  intro hclassdev
  cases ret with
  | some e =>
      apply Triple.bind (Q := fun _ w => NoPled H gpio w.books)
      · exact setDev_spec (P := fun b =>
          NoPled H gpio b ∧ b.dev.pled.gpio = some gpio)
          fun b hb => hb.1.write (by simp [hclassdev])
      · exact fun _ => Triple.raise fun w hw => hw.owing
  | none =>
      apply Triple.bind (Q := fun _ w => Settled H w.books)
      · exact setDev_spec (P := fun b =>
          NoPled H gpio b ∧ b.dev.pled.gpio = some gpio)
          fun b hb => hb.1.register hone
            (l := { b.dev.pled with classdev := classdev })
            (hclassdev.mpr rfl) hb.2
      · exact fun _ => setDev_spec (P := Settled H) fun b hb =>
          ⟨hb.owing, hb.clean⟩

/-- The `n`-th regulator is the next one. -/
structure NextRegulator (H : Header) (gpio : Desc) (n : ℕ) (b : Books) :
    Prop where
  owing : Owing H [gpio] b
  clean : b.dev.ClockClean
  count : b.dev.nRegulatorGpios = n

theorem NextRegulator.setRegulator {n : ℕ} {r : GpioRegulator}
    {E : Errno → World → Prop} :
    Triple (fun w => NextRegulator H gpio n w.books) (setRegulator n r)
      (fun _ w => NextRegulator H gpio n w.books ∧ w.dev.regulators n = r)
      E := by
  refine setDev_spec (P := NextRegulator H gpio n)
    (Q := fun b => NextRegulator H gpio n b ∧ b.dev.regulators n = r) ?_
  rintro b ⟨howing, hclean, rfl⟩
  refine ⟨⟨?_, hclean, rfl⟩, Function.update_self ..⟩
  simp only [Owing, Device.held_writeRegulator]
  exact howing

/-- A failing registration puts the descriptor and leaves it with the caller
all the same. -/
theorem regulatorRegister_spec {n : ℕ} {E : Errno → World → Prop} :
    Triple (fun w => NextRegulator H gpio n w.books) (regulatorRegister gpio)
      (fun rdev w => NextRegulator H gpio n w.books ∧
        (rdev = .obj gpio ∨ ∃ e, rdev = .err e)) E := by
  intro w hw
  cases hout : w.outcomes.headD none with
  | none =>
      simp only [regulatorRegister, bind_apply, call, hout, pure_apply]
      exact ⟨⟨hw.owing, hw.clean, hw.count⟩, .inl rfl⟩
  | some e =>
      simp only [regulatorRegister, bind_apply, call, hout, gpiodPut,
        modify_apply, pure_apply]
      refine ⟨⟨?_, hw.clean, hw.count⟩, .inr ⟨e, rfl⟩⟩
      exact hw.owing.releaseStray (by simp)

theorem registerRegulator_registers (enableTime : ℕ) (supplyName : String)
    (secondSensor : Option String) :
    Registers H gpio
      (registerRegulator H F gpio enableTime supplyName secondSensor) := by
  apply Triple.gets_bind
  intro n
  apply Triple.bind (Q := fun _ w => NextRegulator H gpio n w.books)
  · apply Triple.when
    · exact fun _ => Triple.raise fun w hw => hw.1.1
    · exact fun _ w hw => ⟨hw.1.1, hw.1.2, hw.2⟩
  intro _
  apply Triple.bind (Q := fun _ w => NextRegulator H gpio n w.books)
  · apply Triple.when
    · exact fun _ => Triple.raise fun w hw => hw.owing
    · exact fun _ w hw => hw
  intro _
  apply Triple.bind (Q := fun rdev w => NextRegulator H gpio n w.books ∧
    (rdev = .obj gpio ∨ ∃ e, rdev = .err e))
  · exact regulatorRegister_spec
  intro rdev
  apply Triple.of_fact
  rintro (rfl | ⟨e, rfl⟩)
  · apply Triple.bind (NextRegulator.setRegulator)
    intro _
    refine setDev_spec (P := fun b =>
      NextRegulator H gpio n b ∧ b.dev.regulators n = _) ?_
    rintro b ⟨⟨howing, hclean, rfl⟩, hreg⟩
    have hrdev := congrArg GpioRegulator.rdev hreg
    exact ⟨howing.rearrange (b.dev.held_countRegulator H hrdev), hclean⟩
  · apply Triple.bind (NextRegulator.setRegulator)
    exact fun _ => Triple.raise fun w hw => hw.1.owing

theorem registerGpio_registers (use : PinUse) :
    Registers H gpio (registerGpio H F use gpio) := by
  refine Triple.ite (fun _ => registerGpioClock_registers) fun _ => ?_
  refine Triple.ite (fun _ => ?_) fun _ => ?_
  · refine Triple.ite (fun hmany => ?_) fun hone => ?_
    · exact registerLed_registers hmany "privacy"
    · exact registerPled_registers (by simpa using hone)
  refine Triple.ite (fun _ => ?_) fun _ => ?_
  · apply Triple.gets_bind
    exact fun secondSensor =>
      (registerRegulator_registers use.enableTime use.conId
        secondSensor).strengthenPre fun _ h => h.1
  · exact registerRegulator_registers use.enableTime use.conId none

end Registering

/-! ## Probe and remove -/

section Lifetime

variable {H : Header} {F : Firmware}

theorem fillGpiodLookup_spec {agpio : AcpiGpio} {conId : String}
    {activeLow : Bool} {P : World → Prop} :
    Triple P (fillGpiodLookup F agpio conId activeLow) (fun _ => P)
      (fun _ => P) := by
  simp only [fillGpiodLookup]
  split
  · exact Triple.raise fun _ h => h
  · exact Triple.raise fun _ h => h
  · exact Triple.pure fun _ h => h

theorem mapGpioToSensor_spec (agpio : AcpiGpio) (conId : String)
    (activeLow : Bool) :
    Triple (fun w => Settled H w.books)
      (mapGpioToSensor H F agpio conId activeLow)
      (fun _ w => Settled H w.books) (fun _ w => Settled H w.books) := by
  apply Triple.gets_bind
  intro n
  apply Triple.bind (Q := fun _ w => Settled H w.books)
  · exact Triple.when (fun _ => Triple.raise fun _ h => h.1) fun _ _ h => h.1
  intro _
  apply Triple.bind fillGpiodLookup_spec
  exact fun entry => setDev_spec (P := Settled H) fun b hb =>
    ⟨hb.owing, hb.clean⟩

theorem gpiodGetFromTempLookup_spec (agpio : AcpiGpio) (conId : String)
    (activeLow : Bool) :
    Triple (fun w => Settled H w.books)
      (gpiodGetFromTempLookup F agpio conId activeLow)
      (fun d w => Owing H [d] w.books ∧ w.dev.ClockClean)
      (fun _ w => Settled H w.books) := by
  apply Triple.bind (Q := fun _ w => Settled H w.books)
  · exact allocate_keeps .kzalloc trivial
  intro _
  apply Triple.bind fillGpiodLookup_spec
  exact fun entry => gpiodGet_spec entry

theorem mapGpio_spec (agpio : AcpiGpio) (use : PinUse) :
    Triple (fun w => Settled H w.books) (mapGpio H F agpio use)
      (fun _ w => Settled H w.books) (fun _ w => Owing H [] w.books) := by
  refine Triple.ite (fun _ => ?_) fun _ => Triple.ite (fun _ => ?_) fun _ => ?_
  · exact (mapGpioToSensor_spec agpio use.conId use.activeLow).consequence
      (fun _ h => h) (fun _ _ h => h) fun _ _ h => h.owing
  · apply Triple.bind
    · exact (gpiodGetFromTempLookup_spec agpio use.conId
        use.activeLow).consequence (fun _ h => h) (fun _ _ h => h)
        fun _ _ h => h.owing
    intro gpio
    exact Triple.unwinding (registerGpio_registers use) fun _ => gpiodPut_spec
  · exact Triple.pure fun _ h => h

theorem handleGpioResources_spec (ares : AcpiResource) :
    Triple (fun w => Settled H w.books) (handleGpioResources H F ares)
      (fun _ w => Settled H w.books) (fun _ w => Owing H [] w.books) := by
  cases ares with
  | other => exact Triple.pure fun _ h => h
  | gpioIo agpio =>
      apply Triple.gets_bind
      intro ngpios
      cases F.gpioDsm (ngpios + 2) with
      | none => exact Triple.pure fun _ h => h.1
      | some value =>
          refine Triple.tryFinally ((mapGpio_spec agpio _).strengthenPre
            fun _ h => h.1) (fun _ => ?_) (fun _ _ => ?_) fun _ _ h => by cases h
          · exact setDev_spec (P := Settled H) fun b hb =>
              ⟨hb.owing, hb.clean⟩
          · exact setDev_spec (P := Owing H []) fun b hb => hb

theorem getResources_spec :
    Triple (fun w => Settled H w.books) (getResources H F)
      (fun _ w => Settled H w.books) (fun _ w => Owing H [] w.books) := by
  have hattempt : ∀ c : KernelCall, c.Neutral →
      Triple (fun w => Settled H w.books) (attempt c)
        (fun _ w => Settled H w.books) (fun _ w => Owing H [] w.books) :=
    fun c hc => (attempt_keeps (P := Settled H) c hc).consequence
      (fun _ h => h) (fun _ _ h => h) fun _ _ h => h.owing
  apply Triple.bind (hattempt .evaluateCrs trivial)
  intro _
  apply Triple.bind
    (Triple.forEach F.resources fun ares _ => handleGpioResources_spec ares)
  exact fun _ => hattempt .endOfCrs trivial

theorem parseCrs_spec :
    Triple (fun w => Settled H w.books) (parseCrs H F)
      (fun _ w => Settled H w.books) (fun _ w => Owing H [] w.books) := by
  apply Triple.bind getResources_spec
  intro _
  apply Triple.bind registerDsmClock_spec
  exact fun _ => setDev_spec (P := Settled H) fun b hb => ⟨hb.owing, hb.clean⟩

/-- Of the device `d` the descriptors `held` are still to be put. -/
def Remaining (d : Device) (held : List Desc) (w : World) : Prop :=
  w.dev = d ∧ Balanced held w.puts (straysOf w.calls) w.gotten

theorem gpiodPut_remaining {d : Device} {o : Option Desc} {held : List Desc}
    {E : Errno → World → Prop} :
    Triple (Remaining d (o.toList ++ held)) (gpiodPut o)
      (fun _ => Remaining d held) E :=
  Triple.modify fun _ hw => ⟨hw.1, hw.2.release _⟩

theorem regulatorUnregister_remaining {d : Device} {rdev : Ptr Desc}
    {held : List Desc} {E : Errno → World → Prop} :
    Triple (Remaining d (rdev.owned ++ held)) (regulatorUnregister rdev)
      (fun _ => Remaining d held) E := by
  cases rdev with
  | obj gpio => exact gpiodPut_remaining (o := some gpio)
  | null => exact Triple.pure fun _ h => h
  | err e => exact Triple.pure fun _ h => h

/-- Going through a list of slots puts what they hold. -/
theorem forEach_remaining {d : Device} {f : ℕ → List Desc}
    {p : ℕ → Kernel Unit} {E : Errno → World → Prop}
    (hp : ∀ i held, Triple (Remaining d (f i ++ held)) (p i)
      (fun _ => Remaining d held) E) (is : List ℕ) (held : List Desc) :
    Triple (Remaining d (is.flatMap f ++ held)) (forEach p is)
      (fun _ => Remaining d held) E := by
  induction is with
  | nil => exact Triple.pure fun _ h => h
  | cons i is ih =>
      apply Triple.bind (Q := fun _ => Remaining d (is.flatMap f ++ held))
      · rw [List.flatMap_cons, List.append_assoc]
        exact hp i _
      · exact fun _ => ih

theorem unregisterClock_remaining {d : Device} {held : List Desc}
    {E : Errno → World → Prop} :
    Triple (Remaining d (d.clock.held ++ held)) unregisterClock
      (fun _ => Remaining d held) E := by
  apply Triple.gets_bind
  intro clock
  apply Triple.when
  · intro hcl
    refine gpiodPut_remaining.strengthenPre ?_
    rintro w ⟨hw, rfl⟩
    simpa only [Int3472Clock.held, ← hw.1, hcl, if_true] using hw
  · rintro hcl w ⟨hw, rfl⟩
    simpa only [Int3472Clock.held, ← hw.1, hcl, Bool.false_eq_true, if_false,
      List.nil_append] using hw

theorem unregisterLeds_remaining {d : Device} {held : List Desc}
    {E : Errno → World → Prop} :
    Triple (Remaining d (d.ledsHeld H ++ held))
      (if H.manyLeds then unregisterLeds else unregisterPled)
      (fun _ => Remaining d held) E := by
  refine Triple.ite (fun hmany => ?_) fun hone => ?_
  · apply Triple.gets_bind
    intro d'
    refine (forEach_remaining (f := fun i => (d'.leds i).gpio.toList)
      (fun i held => gpiodPut_remaining) _ held).strengthenPre ?_
    rintro w ⟨hw, rfl⟩
    obtain ⟨rfl, hbal⟩ := hw
    simp only [Device.ledsHeld, hmany, if_true] at hbal
    exact ⟨rfl, hbal⟩
  · apply Triple.gets_bind
    intro pled
    apply Triple.when
    · intro hobj
      refine gpiodPut_remaining.strengthenPre ?_
      rintro w ⟨hw, rfl⟩
      simpa only [Device.ledsHeld, ← hw.1, hone, hobj, Bool.false_eq_true,
        if_false, if_true] using hw
    · rintro hobj w ⟨hw, rfl⟩
      simpa only [Device.ledsHeld, ← hw.1, hone, hobj, Bool.false_eq_true,
        if_false, List.nil_append] using hw

theorem unregisterRegulator_remaining {d : Device} {E : Errno → World → Prop} :
    Triple (Remaining d d.regulatorsHeld) unregisterRegulator
      (fun _ => Remaining d []) E := by
  apply Triple.gets_bind
  intro d'
  refine (forEach_remaining (f := fun i => (d'.regulators i).rdev.owned)
    (fun i held => regulatorUnregister_remaining) _ []).strengthenPre ?_
  rintro w ⟨⟨rfl, hbal⟩, rfl⟩
  rw [List.append_nil]
  exact ⟨rfl, hbal⟩

/-- Nothing is in anybody's hands. -/
def Empty (w : World) : Prop :=
  Balanced [] w.puts (straysOf w.calls) w.gotten

/-- Cleaning up puts everything the device has. -/
theorem cleanup_spec {E : Errno → World → Prop} :
    Triple (fun w => Owing H [] w.books) (cleanup H) (fun _ => Empty) E := by
  intro w hw
  refine Triple.bind (Q := fun _ => Remaining { w.dev with lookupFor := none }
    (w.dev.held H)) (P := fun w' => w' = w) ?_ ?_ w rfl
  · rintro _ rfl
    exact ⟨rfl, hw⟩
  intro _
  apply Triple.bind unregisterClock_remaining
  intro _
  apply Triple.bind unregisterLeds_remaining
  intro _
  exact unregisterRegulator_remaining.consequence (fun _ h => h)
    (fun _ _ h => h.2) fun _ _ h => h

/-- No descriptor has been got yet. -/
structure Unused (b : Books) : Prop where
  puts : b.puts = []
  strays : b.strays = []
  gotten : b.gotten = 0

theorem Unused.empty {w : World} (hw : Unused w.books) : Empty w := by
  have hputs : w.puts = [] := hw.puts
  have hstrays : straysOf w.calls = [] := hw.strays
  have hgotten : w.gotten = 0 := hw.gotten
  simp only [Empty, hputs, hstrays, hgotten]
  exact Balanced.start

theorem Unused.settled {b : Books} (hb : Unused b) (index : ℕ)
    (quirk : Option String) :
    Settled H { b with
      dev := { clock := { imgclkIndex := index }, avddSecondSensor := quirk } } := by
  obtain ⟨hputs, hstrays, hgotten⟩ := hb
  refine ⟨?_, fun _ => rfl⟩
  simp only [Owing, hputs, hstrays, hgotten]
  have hheld : ({ clock := { imgclkIndex := index }
                  avddSecondSensor := quirk } : Device).held H = [] := by
    simp [Device.held, Device.ledsHeld, Device.regulatorsHeld,
      Int3472Clock.held]
  rw [hheld]
  exact Balanced.start

theorem probe_spec :
    Triple (fun w => Unused w.books) (probe H F)
      (fun _ w => Owing H [] w.books) (fun _ => Empty) := by
  have hkeep : ∀ {p : Kernel Unit},
      Triple (fun w => Unused w.books) p (fun _ w => Unused w.books)
        (fun _ w => Unused w.books) →
      Triple (fun w => Unused w.books) p (fun _ w => Unused w.books)
        (fun _ => Empty) :=
    fun hp => hp.consequence (fun _ h => h) (fun _ _ h => h)
      fun _ _ h => h.empty
  apply Triple.bind (Q := fun _ w => Unused w.books)
  · exact Triple.when (fun _ => Triple.raise fun _ h => h.empty) fun _ _ h => h
  intro _
  apply Triple.bind (hkeep (attempt_keeps .fillCldb trivial))
  intro _
  apply Triple.bind (Q := fun _ w => Unused w.books)
  · exact Triple.when (fun _ => Triple.raise fun _ h => h.empty) fun _ _ h => h
  intro _
  apply Triple.bind (hkeep (allocate_keeps .kzalloc trivial))
  intro _
  apply Triple.bind (Q := fun _ w => Settled H w.books ∧ Empty w)
  · intro w hw
    exact ⟨hw.settled _ _, hw.empty⟩
  intro _
  apply Triple.bind (Q := fun _ w => Settled H w.books)
  · intro w hw
    have hafter := attempt_keeps (P := fun b => Settled H b ∧
      Balanced [] b.puts b.strays b.gotten) .sensorAdev trivial w hw
    revert hafter
    rcases attempt .sensorAdev w with ⟨_ | _, w'⟩
    · exact fun h => h.2
    · exact fun h => h.1
  intro _
  apply Triple.unwinding
  · exact parseCrs_spec.consequence (fun _ h => h) (fun _ _ h => h.owing)
      fun _ _ h => h
  · exact fun _ => cleanup_spec

theorem lifetime_spec :
    Triple (fun w => Unused w.books) (lifetime H F) (fun _ => Empty)
      (fun _ => Empty) :=
  Triple.bind probe_spec fun _ => cleanup_spec

end Lifetime

/-! ## Every descriptor exactly once -/

/-- No registration of a regulator has failed. -/
def NoRegulatorFailed (w : World) : Prop :=
  ∀ d e, (KernelCall.regulatorRegister d, some e) ∉ w.calls

theorem straysOf_eq_nil_iff (w : World) :
    straysOf w.calls = [] ↔ NoRegulatorFailed w := by
  rw [straysOf, List.filterMap_eq_nil_iff]
  constructor
  · intro h d e hmem
    exact Option.some_ne_none d (h _ hmem)
  · rintro h ⟨c, o⟩ hmem
    cases c with
    | regulatorRegister d =>
        cases o with
        | none => rfl
        | some e => exact (h d e hmem).elim
    | _ => rfl

/-- From probe to removal, whatever the firmware lists and whatever fails, every
descriptor is put exactly once if and only if no registration of a regulator
failed. -/
theorem putOnce_iff (H : Header) (F : Firmware)
    (outcomes : List (Option Errno)) :
    PutOnce (lifetime H F (World.initial outcomes)).2 ↔
      NoRegulatorFailed (lifetime H F (World.initial outcomes)).2 := by
  have hempty : Empty (lifetime H F (World.initial outcomes)).2 :=
    Triple.final lifetime_spec ⟨rfl, rfl, rfl⟩
  rw [← straysOf_eq_nil_iff]
  exact hempty.released_once_iff

/-- A sensor with one power-enable pin. -/
def onePowerPin : Firmware where
  companion := some "INT3472:00"
  sysVendor := ""
  productVersion := ""
  controlLogicType := 1
  clockSource := 0
  sensorHid := "INT347E"
  sensorName := "i2c-INT347E:00"
  mclkSpeed := 19200000
  resources := [.gpioIo ⟨"GPI0", 0x6e⟩]
  gpioDsm := fun n => if n = 2 then some 0x01006e0b else none
  clkDsm := true
  acpiDev := fun _ => some (some "INT34C5:00")
  ov8865Pwr1ConId := "dvdd"

def kernelHeader : Header where
  gpioTypeHandshake := 0x12
  maxSensorGpios := 3
  maxRegulators := 3
  maxLeds := 2
  gpioSupplyNameLength := 5
  gpioRegulatorEnableTime := 3000
  manyLeds := false

/-- The registration of the one regulator fails, and its descriptor is put by
the regulator core and again by the resource handler. -/
theorem putOnce_fails :
    ¬ PutOnce (lifetime kernelHeader onePowerPin (World.initial
      [none, none, none, none, none, none, some (.other 517)])).2 := by
  decide +kernel

end Int3472
end SurfaceCameras
