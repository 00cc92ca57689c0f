import SurfaceCameras.Ov7251.Probe
import SurfaceCameras.Ov7251.StartsAlike

/-!
# Lives of the OV7251 driver

`ov7251_remove`, and what a device goes through as its driver is bound and
unbound: probes that fail at any step, calls with failing transfers in
between, and removes, also of a sensor that streams or is suspended.
-/

namespace SurfaceCameras
namespace Ov7251

open Kernel Device Prog Attached Runs

/-- `ov7251_remove`. -/
def remove : Prog Probing Fault Unit := do
  hold fun h => { h with entity := false }
  hold fun h => { h with ctrls := false }
  hold fun h => { h with mutex := false }
  hold fun h => { h with pmEnabled := false }
  let pm ← Prog.gets fun s : Probing => s.dev.pm
  Prog.when (pm.active = true) (onDevice setPowerOff)
  setDevice (pmField.update RuntimePm.suspend)

section Parameters

variable (par : Params) (nearest : ℕ → ℕ → Fin 3)

/-- The driver, bound with the outcomes of its transfers and the answers of the
platform. -/
def boundDriver :
    BoundDriver Probing (List Bool × Platform) (List Bool × SysCall) where
  probe s x := probeDevice par nearest x.2 ⟨s.dev.facing x.1, s.held⟩
  call s x := ⟨sysStep par nearest s.dev x, s.held⟩
  remove s := (remove s).2

/-- Nothing is set up, and the power is as it is without the sensor. -/
structure Idle (p : Power) (s : Probing) : Prop where
  power : s.dev.power = p
  held : s.held = Held.nothing

/-- Everything is set up, and the sensor is powered exactly if runtime power
management holds it to be resumed. -/
structure Bound (p : Power) (s : Probing) : Prop where
  power : s.dev.power = if s.dev.pm.active = true then p.on else p
  held : s.held = ⟨true, true, true, true⟩

/-- No registration is refused once all the rest of a probe has succeeded. -/
def Registers (s : Probing) (x : List Bool × Platform) : Prop :=
  ¬ (ReachesRegistration x.2 ⟨s.dev.facing x.1, s.held⟩ ∧
    ∃ e, x.2.subdev = .error e)

/-! ## Power between probe and remove -/

/-- The power, and whether the sensor is held to be resumed. -/
def Device.powering (d : Device) : Power × Bool := (d.power, d.pm.active)

theorem powering_admits :
    Admits (Frame.fixing Device.powering) fun _ => True where
  outcomes _ _ := rfl
  store _ _ _ _ := rfl
  preIsp00 _ _ := rfl
  timingFormat1 _ _ := rfl
  timingFormat2 _ _ := rfl
  hold _ _ _ h := h
  validateNew _ i := by cases i <;> rfl
  newToCur _ i := by cases i <;> rfl
  curToNew _ i := by cases i <;> rfl
  setVal _ i _ _ := by cases i <;> rfl
  exposureRange _ _ _ _ _ _ := rfl

variable {p : Power}

/-- The sensor is powered exactly if it is held to be resumed. -/
def Powered (p : Power) (d : Device) : Prop :=
  d.power = if d.pm.active = true then p.on else p

theorem powered_of_stays {α : Type} {q : Prog Device Fault α}
    (hq : Stays (Frame.fixing Device.powering) q) :
    Triple (Powered p) q (fun _ => Powered p) (fun _ => Powered p) := by
  apply (hq.triple (P := Powered p) ?_).consequence
    (fun _ h => h) (fun _ _ h => h) fun _ _ h => h.1
  intro d d' hsame hd
  obtain ⟨hpower, hactive⟩ := Prod.mk.inj hsame
  rwa [Powered, hpower, hactive]

theorem setPowerOn_power (hline : p.enableGpio = false) {pm : RuntimePm} :
    Triple (fun d => d.power = p ∧ d.pm = pm) setPowerOn
      (fun _ d => d.power = p.on ∧ d.pm = pm)
      (fun _ d => d.power = p ∧ d.pm = pm) := by
  rintro d ⟨hpower, hpm⟩
  have hspent : Spent p pm d.bus.regs d.bus.faults 0 d :=
    ⟨hpower, hpm, rfl, rfl, List.not_mem_nil⟩
  exact (setPowerOn_spent d.bus.regs hline).consequence (fun _ h => h)
    (fun _ _ h => ⟨h.power, h.pm⟩) (fun _ _ h => ⟨h.power, h.pm⟩) d hspent

/-- A resume powers the sensor on if it is suspended; one that fails leaves it
off. -/
theorem resume_powered (hline : p.enableGpio = false) :
    Triple (Powered p) (pmRuntimeResumeAndGet pmField setPowerOn)
      (fun _ => Powered p) (fun _ => Powered p) := by
  apply Triple.bind (Q := fun _ => Powered p)
  · exact Triple.modify fun _ hd => hd
  intro _
  apply Triple.gets_bind
  intro pm
  apply Triple.ite
  · exact fun _ => Triple.pure fun _ hd => hd.1
  · intro hsuspended
    apply Triple.tryCatch (J := fun _ => Powered p)
    · apply Triple.bind (Q := fun _ d => d.power = p.on ∧ d.pm = pm)
      · apply (setPowerOn_power hline).consequence ?_ (fun _ _ h => h) ?_
        · rintro d ⟨hd, rfl⟩
          exact ⟨hd.trans (if_neg hsuspended), rfl⟩
        · rintro _ d ⟨hpower, rfl⟩
          exact hpower.trans (if_neg hsuspended).symm
      · intro _
        exact Triple.modify fun d hd => hd.1
    · intro e
      apply Triple.bind (Q := fun _ => Powered p)
      · exact Triple.modify fun _ hd => hd
      · exact fun _ => Triple.raise fun _ hd => hd

/-- Powering off undoes powering on. -/
theorem setPowerOff_power (hline : p.enableGpio = false) :
    Triple (fun d => d.power = p.on) setPowerOff (fun _ d => d.power = p)
      (fun _ _ => False) := by
  apply Triple.bind (Q := fun _ d => d.power = { p.on with
    xclk := p.xclk, enableGpio := false })
  · apply Triple.modify
    intro d hd
    refine Eq.trans (congrArg (fun p : Power => { p with
      xclk := p.xclk - 1, enableGpio := false }) hd) ?_
    simp only [Power.on, Int.add_sub_cancel]
  · intro _
    apply Triple.modify
    intro d hd
    refine Eq.trans (congrArg (fun p : Power => { p with
      core := p.core - 1, analog := p.analog - 1, io := p.io - 1 }) hd) ?_
    rw [← hline]
    simp only [Power.on, Int.add_sub_cancel]

theorem autosuspend_powered (hline : p.enableGpio = false)
    (lost : ℕ → BitVec 8) :
    Triple (Powered p) (autosuspend lost) (fun _ => Powered p)
      (fun _ => Powered p) := by
  apply Triple.gets_bind
  intro pm
  apply Triple.ite
  · rintro ⟨hactive, -⟩
    apply Triple.bind (Q := fun _ d => d.power = p)
    · apply (setPowerOff_power hline).consequence ?_ (fun _ _ h => h)
        fun _ _ h => h.elim
      rintro d ⟨hd, rfl⟩
      exact hd.trans (if_pos hactive)
    · intro _
      apply Triple.bind (Q := fun _ d => d.power = p)
      · exact Triple.modify fun _ hd => hd
      · exact fun _ => Triple.modify fun _ hd => hd
  · exact fun _ => Triple.modify fun _ hd => hd.1

/-- Every call keeps the power in step with runtime power management. -/
theorem sysStep_powered (hline : p.enableGpio = false) {d : Device}
    (hd : Powered p d) (x : List Bool × SysCall) :
    Powered p (sysStep par nearest d x) := by
  obtain ⟨os, c⟩ := x
  have hfacing : Powered p (d.facing os) := hd
  have hadmits := powering_admits
  have hall : ∀ x ∈ ctrlRegisters, True := fun _ _ => trivial
  match c with
  | .call (.setFormat w h) =>
      have hstay : Stays (Frame.fixing Device.powering)
          (setFormat par nearest .active w h) :=
        setFormat_stays hadmits hall par (fun _ _ => rfl) (fun _ _ => rfl)
          fun _ => rfl
      exact (powered_of_stays hstay).final hfacing
  | .call (.setFrameInterval t) =>
      have hstay := setFrameInterval_stays hadmits hall par (fun _ _ => rfl) t
      exact (powered_of_stays hstay).final hfacing
  | .call (.write i v) =>
      have hstay := writeControl_stays hadmits hall par (i := i) v
        fun _ _ => by cases i <;> rfl
      exact (powered_of_stays hstay).final hfacing
  | .stream hasLed true =>
      have hstart := startResumed_stays hadmits (fun _ _ => trivial)
        (fun _ => rfl) par hasLed
      have hrun : Triple (Powered p) (sStream par hasLed true)
          (fun _ => Powered p) (fun _ => Powered p) :=
        Triple.bind (resume_powered hline) fun _ => powered_of_stays hstart
      exact hrun.final hfacing
  | .stream hasLed false =>
      have hstop := stop_stays hadmits.toAdmitsBus (fun _ _ => trivial)
        (fun _ => rfl) par hasLed
      exact (powered_of_stays hstop).final hfacing
  | .autosuspend lost => exact (autosuspend_powered hline lost).final hfacing

/-! ## Probe and remove -/

/-- A device whose power-up has succeeded is in use until the reference of the
probe is dropped, and stays powered. -/
theorem powerUp_bound (hline : p.enableGpio = false) {h : Held}
    (hdisabled : h.pmEnabled = false) {pm : RuntimePm} {r : ℕ → BitVec 8}
    {os : List Bool} :
    Triple (During (Spent p pm r os 0) h) powerUp
      (fun _ s => During (Powered p) { h with pmEnabled := true } s)
      (fun _ _ => True) := by
  apply Triple.bind (Q := fun _ =>
    During (Spent p.on pm (initialized r) os 6) h)
  · apply (onDevice_during (setPowerOn_spent r hline)).consequence
      (fun _ hs => hs) (fun _ _ hs => hs) fun _ _ _ => trivial
  intro _
  apply Triple.bind (Q := fun _ => During (Spent p.on (enabledPm pm)
    (initialized r) os 12) { h with pmEnabled := true })
  · apply Triple.unwinding_returns
    apply (takeOver_during hdisabled).consequence (fun _ hs => hs)
      (fun _ _ hs => hs.1) fun _ _ _ => trivial
  · intro _
    apply (onDevice_during (Q := fun _ => Powered p) (E := fun _ _ => True)
      ?_).consequence (fun _ hs => hs) (fun _ _ hs => hs) fun _ _ _ => trivial
    apply Triple.modify
    intro d hd
    have hactive : (pmField.update RuntimePm.put d).pm.active = true :=
      congrArg RuntimePm.active hd.pm
    exact hd.power.trans (if_pos hactive).symm

theorem setUp_bound (pf : Platform) (hline : p.enableGpio = false)
    {pm : RuntimePm} {r : ℕ → BitVec 8} {os : List Bool} :
    Triple (During (Spent p pm r os 0) Held.nothing) (setUp par pf)
      (fun _ => During (Powered p) ⟨true, true, true, true⟩)
      (fun _ _ => True) := by
  apply Triple.bind hold_during
  intro _
  apply Triple.unwinding_returns
  apply Triple.bind (Q := fun _ =>
    During (Spent p pm r os 0) { Held.nothing with mutex := true })
  · exact prepare_during fun _ => ⟨rfl, rfl, rfl⟩
  intro _
  apply answer_bind ?_ fun _ _ _ _ => trivial
  intro _ _
  apply Triple.bind (Q := fun _ =>
    During (Spent p pm r os 0) { Held.nothing with mutex := true })
  · exact prepare_during fun _ => ⟨rfl, rfl, rfl⟩
  intro _
  apply Triple.bind hold_during
  intro _
  apply Triple.unwinding_returns
  apply answer_bind ?_ fun _ _ _ _ => trivial
  intro _ _
  apply Triple.bind hold_during
  intro _
  apply Triple.unwinding_returns
  apply Triple.bind (powerUp_bound hline rfl)
  intro _ s hs
  cases pf.subdev with
  | ok u => exact hs
  | error e => trivial

/-- A probe that succeeds has set everything up. -/
theorem probe_bound (pf : Platform) (hline : p.enableGpio = false)
    {s s' : Probing} (hs : Idle p s)
    (hrun : probeDevice par nearest pf s = (.ok (), s')) : Bound p s' := by
  have hinit : Stays (Frame.fixing Device.powering)
      (initState par nearest) := by
    apply Keeps.tryCatch (S := fun _ => True)
    · exact (setFormat_stays powering_admits (fun _ _ => trivial) par
        (fun _ _ => rfl) (fun _ _ => rfl) fun _ => rfl).bind
          fun _ => Keeps.pure ()
    · exact fun _ _ => Keeps.pure ()
  have hprobe : Triple (During (Spent p s.dev.pm s.dev.bus.regs
      s.dev.bus.faults 0) Held.nothing) (probeDevice par nearest pf)
      (fun _ => During (Powered p) ⟨true, true, true, true⟩)
      (fun _ _ => True) := by
    apply Triple.bind (Q := fun _ => During (Spent p s.dev.pm s.dev.bus.regs
      s.dev.bus.faults 0) Held.nothing)
    · exact (acquire_during par pf hline).consequence (fun _ hs => hs)
        (fun _ _ hs => hs.1) fun _ _ _ => trivial
    intro _
    apply Triple.bind (setUp_bound par pf hline)
    intro _
    exact (onDevice_during (powered_of_stays hinit)).consequence
      (fun _ hs => hs) (fun _ _ hs => hs) fun _ _ _ => trivial
  have hafter := hprobe s
    ⟨⟨hs.power, rfl, rfl, rfl, List.not_mem_nil⟩, hs.held⟩
  rw [hrun] at hafter
  exact ⟨hafter.1, hafter.2⟩

theorem probe_registers (pf : Platform) (hline : p.enableGpio = false)
    {s s' : Probing} (hs : Idle p s)
    (hrun : probeDevice par nearest pf s = (.ok (), s')) :
    pf.subdev = .ok () := by
  have hline' : s.dev.power.enableGpio = false := by rw [hs.power, hline]
  have hleft := probe_left par nearest pf hline' s
    ⟨⟨rfl, rfl, rfl, rfl, List.not_mem_nil⟩, hs.held⟩
  rw [hrun] at hleft
  exact hleft

/-- A probe that fails has undone everything, unless the registration is
refused. -/
theorem probe_idle_iff (pf : Platform) (hline : p.enableGpio = false)
    {s s' : Probing} {e : Fault} (hs : Idle p s)
    (hrun : probeDevice par nearest pf s = (.error e, s')) :
    Idle p s' ↔ ¬ (ReachesRegistration pf s ∧ ∃ e, pf.subdev = .error e) := by
  have hline' : s.dev.power.enableGpio = false := by rw [hs.power, hline]
  have hleft := probe_left par nearest pf hline' s
    ⟨⟨rfl, rfl, rfl, rfl, List.not_mem_nil⟩, hs.held⟩
  rw [hrun] at hleft
  rcases hleft with ⟨⟨hpower, -, hsilent⟩, hheld⟩ | ⟨⟨-, hheld⟩, hreaches⟩
  · exact iff_of_true ⟨hpower.trans hs.power, hheld⟩ fun h => hsilent h.1
  · refine iff_of_false (fun hidle => ?_) fun h => h hreaches
    have hnone := hidle.held
    rw [hheld] at hnone
    cases hnone

/-- A remove powers the sensor off if it is not suspended. -/
theorem remove_idle (hline : p.enableGpio = false) :
    Triple (Bound p) remove (fun _ => Idle p) (fun _ _ => False) := by
  have hdrop : ∀ {h : Held} (f : Held → Held), Triple (During (Powered p) h)
      (hold f) (fun _ => During (Powered p) (f h)) (fun _ _ => False) :=
    fun f => hold_during
  refine Triple.strengthenPre ?_ fun s hs =>
    (⟨hs.power, hs.held⟩ : During (Powered p) ⟨true, true, true, true⟩ s)
  apply Triple.bind (hdrop _)
  intro _
  apply Triple.bind (hdrop _)
  intro _
  apply Triple.bind (hdrop _)
  intro _
  apply Triple.bind (hdrop _)
  intro _
  apply Triple.gets_bind
  intro pm
  apply Triple.bind (Q := fun _ =>
    During (fun d => d.power = p) Held.nothing)
  · apply Triple.when
    · intro hactive
      apply (onDevice_during (setPowerOff_power hline)).consequence ?_
        (fun _ _ hs => hs) fun _ _ hs => hs.1
      rintro s ⟨⟨hpower, hheld⟩, rfl⟩
      exact ⟨hpower.trans (if_pos hactive), hheld⟩
    · rintro hsuspended s ⟨⟨hpower, hheld⟩, rfl⟩
      exact ⟨hpower.trans (if_neg hsuspended), hheld⟩
  · intro _ s hs
    exact ⟨hs.1, hs.2⟩

/-! ## Any number of lives -/

/-- Over any number of lives the power follows runtime power management while
the driver is bound, and is as it was before the first probe while it is not,
exactly if no registration is refused: whatever transfers fail, whichever
other step of a probe is refused, and whether the sensor streams, idles or is
suspended when the driver is removed. -/
theorem lives_inOrder_iff (hline : p.enableGpio = false) {s : Probing}
    (hs : Idle p s)
    (events : List (LifeCall (List Bool × Platform) (List Bool × SysCall))) :
    Throughout (boundDriver par nearest).lifeStep
        ((boundDriver par nearest).InOrder (Idle p) (Bound p)) (s, false)
          events ↔
      Along (boundDriver par nearest).lifeStep
        ((boundDriver par nearest).Admitted Registers fun _ _ => True)
          (s, false) events := by
  apply BoundDriver.inOrder_iff ?_ ?_ ?_ hs
  · rintro s ⟨os, pf⟩ hs
    have hfacing : Idle p ⟨s.dev.facing os, s.held⟩ := ⟨hs.power, hs.held⟩
    change BoundDriver.ProbeInOrder (Idle p) (Bound p)
      (probeDevice par nearest pf ⟨s.dev.facing os, s.held⟩) ↔ _
    rcases hrun : probeDevice par nearest pf ⟨s.dev.facing os, s.held⟩ with
      ⟨e | ⟨⟩, t⟩
    · exact probe_idle_iff par nearest pf hline hfacing hrun
    · have hsubdev := probe_registers par nearest pf hline hfacing hrun
      refine iff_of_true (probe_bound par nearest pf hline hfacing hrun) ?_
      rintro ⟨-, e, he⟩
      rw [hsubdev] at he
      cases he
  · intro s x hs
    exact iff_of_true ⟨sysStep_powered par nearest hline hs.power x, hs.held⟩
      trivial
  · intro s hs
    exact ((remove_idle hline).consequence (fun _ h => h) (fun _ _ h => h)
      fun _ _ h => h.elim).final hs

end Parameters

/-- A platform on which everything is granted, seen with these outcomes. -/
def grants (outcomes : List Bool) : LifeCall (List Bool × Platform)
    (List Bool × SysCall) :=
  .probe (outcomes, plainPlatform (.ok ()))

/-- A probe of a sensor that does not answer, a life that ends while the sensor
streams, and another probe. -/
def twoLives : List (LifeCall (List Bool × Platform)
    (List Bool × SysCall)) :=
  [grants [false, false, false, false, true], grants [],
    .call ([], .stream true true), .remove, grants []]

/-- No registration is refused, and all is in order throughout. -/
theorem lives_inOrder_two :
    Throughout (boundDriver stockParams fun _ _ => 0).lifeStep
      ((boundDriver stockParams fun _ _ => 0).InOrder
        (Idle ⟨0, 0, 0, 0, false⟩) (Bound ⟨0, 0, 0, 0, false⟩))
          (plainDevice, false) twoLives := by
  refine (lives_inOrder_iff stockParams (fun _ _ => 0) rfl ⟨rfl, rfl⟩
    twoLives).mpr ?_
  have hgranted : ∀ (s : Probing) (outcomes : List Bool),
      Registers s (outcomes, plainPlatform (.ok ())) := by
    rintro s outcomes ⟨-, e, he⟩
    cases he
  exact ⟨fun _ => hgranted _ _, fun _ => hgranted _ _, fun _ => trivial, trivial,
    fun _ => hgranted _ _, trivial⟩

example :
    let x := run (boundDriver stockParams fun _ _ => 0).lifeStep
      (plainDevice, false) twoLives
    x.2 = true ∧ x.1.dev.power = Power.on ⟨0, 0, 0, 0, false⟩ := by
  decide +kernel

end Ov7251
end SurfaceCameras
