import SurfaceCameras.Ov5693.PowerBalance
import SurfaceCameras.Ov5693.Probe

/-!
# Lives of the OV5693 driver

A device goes through probes that are refused at any step, calls with failing
transfers, suspends, and removes, also of a sensor that streams.  What each of
them enables is disabled again, but for one thing: a power-up that cannot
enable the clock or the supplies disables all of them, and from then on the
driver has disabled its supplies once more than it has enabled them.
-/

namespace SurfaceCameras
namespace Ov5693

open Kernel Device Prog Runs Attached

/-! ## Counting what is enabled -/

/-- Clock and supplies are enabled `n` times more often than in `p`. -/
structure Enabled (n : ℤ) (p q : Power) : Prop where
  xvclk : q.xvclk = p.xvclk + n
  supplies : ∀ i, q.supplies i = p.supplies i + n

section Counts

variable {p q : Power}

theorem Enabled.up (h : Enabled 0 p q) : Enabled 1 p (Power.up q) where
  xvclk := by
    have hclk := h.xvclk
    simp only [Power.up]
    omega
  supplies i := by
    have hsup := h.supplies i
    simp only [Power.up]
    omega

theorem Enabled.down (h : Enabled 1 p q) : Enabled 0 p q.down where
  xvclk := by
    have hclk := h.xvclk
    simp only [Power.down]
    omega
  supplies i := by
    have hsup := h.supplies i
    simp only [Power.down]
    omega

/-- A power-up enables everything once, or disables supplies that it has not
enabled. -/
theorem sensorPowerup_enabled {os : List Bool} :
    Triple (fun s => Enabled 0 p s.dev.power ∧ s.bus.faults = os) sensorPowerup
      (fun _ s => Enabled 1 p s.dev.power ∧ true ∉ os.take 2)
      (fun _ s => true ∈ os.take 2 ∧ ¬ Enabled 0 p s.dev.power) := by
  rintro s ⟨hs, rfl⟩
  by_cases hos : true ∈ s.bus.faults.take 2
  · obtain ⟨n, os', herr⟩ := sensorPowerupWith_error hos
    have hrun : sensorPowerup s = _ := herr Power.down s
    rw [hrun]
    refine ⟨hos, fun h => ?_⟩
    have hbefore := hs.supplies 0
    have hafter : s.dev.power.supplies 0 - 1 = p.supplies 0 + 0 := h.supplies 0
    omega
  · have hrun : sensorPowerup s = _ := sensorPowerupWith_ok Power.down s hos
    rw [hrun]
    exact ⟨hs.up, hos⟩

theorem sensorPowerdown_enabled :
    Triple (fun s => Enabled 1 p s.dev.power) sensorPowerdown
      (fun _ s => Enabled 0 p s.dev.power) (fun _ _ => False) :=
  Triple.modify fun _ hs => hs.down

theorem enabled_of_stays {α : Type} {n : ℤ} {q : Prog System Fault α}
    (hq : Stays (Frame.fixing fun s => s.dev.power) q) :
    Triple (fun s => Enabled n p s.dev.power) q
      (fun _ s => Enabled n p s.dev.power)
      (fun _ s => Enabled n p s.dev.power) := by
  apply (hq.triple (P := fun s => Enabled n p s.dev.power) ?_).consequence
    (fun _ h => h) (fun _ _ h => h) fun _ _ h => h.1
  intro s s' hsame hs
  have hsame : s'.dev.power = s.dev.power := hsame
  rwa [hsame]

/-- A resume that fails after its power-up powers down again. -/
theorem sensorResume_enabled (binnedYOffset : ℤ) {os : List Bool} :
    Triple (fun s => Enabled 0 p s.dev.power ∧ s.bus.faults = os)
      (sensorResume binnedYOffset)
      (fun _ s => Enabled 1 p s.dev.power ∧ true ∉ os.take 2)
      (fun _ s => Enabled 0 p s.dev.power ↔ true ∉ os.take 2) := by
  apply Triple.bind (Q := fun _ s =>
    Enabled 1 p s.dev.power ∧ true ∉ os.take 2)
  · apply sensorPowerup_enabled.consequence (fun _ h => h) (fun _ _ h => h)
    exact fun _ _ h => iff_of_false h.2 fun hno => hno h.1
  · intro _
    apply Triple.of_fact
    intro hos
    apply Triple.tryCatch (J := fun _ s => Enabled 1 p s.dev.power)
    · exact (enabled_of_stays (sensorInit_stays power_admits
        binnedYOffset)).consequence (fun _ h => h) (fun _ _ h => ⟨h, hos⟩)
          fun _ _ h => h
    · intro e
      apply Triple.bind (Q := fun _ s => Enabled 0 p s.dev.power)
      · exact sensorPowerdown_enabled.consequence (fun _ h => h)
          (fun _ _ h => h) fun _ _ h => h.elim
      · exact fun _ => Triple.raise fun _ h => iff_of_true h hos

end Counts

/-! ## Calls -/

/-- Nothing but the mutex of a probe that failed is left, and everything is
enabled as often as without the sensor. -/
structure Idle (p : Power) (s : Probing) : Prop where
  enabled : Enabled 0 p s.dev.dev.power
  held : { s.held with mutex := false } = (⟨false, false, false, false⟩ : Held)

/-- The clock and the supplies are enabled once more exactly if the sensor is
held to be resumed. -/
def Powered (p : Power) (s : System) : Prop :=
  Enabled (if s.dev.pm.active = true then 1 else 0) p s.dev.power

/-- Everything is set up. -/
structure Bound (p : Power) (s : Probing) : Prop where
  powered : Powered p s.dev
  held : s.held = ⟨true, true, true, true⟩

/-- A start that has to resume the sensor can enable the clock and the
supplies. -/
def EnablesResume (s : System) : List Bool × Call → Prop
  | (os, .sStream true) => s.dev.pm.active = false → true ∉ os.take 2
  | _ => True

section Calls

variable {p : Power} (binnedYOffset : ℤ)

/-- The power, and whether the sensor is held to be resumed. -/
def powering (s : System) : Power × Bool := (s.dev.power, s.dev.pm.active)

theorem powering_admits :
    Admits (Frame.fixing powering) everywhere everywhere where
  outcomes _ _ := rfl
  store _ _ _ _ := rfl
  hold _ _ _ h := h
  ctrl _ id _ _ := by cases id <;> rfl

theorem powered_of_stays {α : Type} {q : Prog System Fault α}
    (hq : Stays (Frame.fixing powering) q) :
    Triple (Powered p) q (fun _ => Powered p) (fun _ => Powered p) := by
  apply (hq.triple (P := Powered p) ?_).consequence
    (fun _ h => h) (fun _ _ h => h) fun _ _ h => h.1
  intro s s' hsame hs
  obtain ⟨hpower, hactive⟩ := Prod.mk.inj hsame
  rwa [Powered, hpower, hactive]

theorem dropReference_powered (e : Fault) :
    Stays (Frame.fixing powering) (dropReference e) :=
  (Keeps.modify fun _ => rfl).bind fun _ => Keeps.raise trivial

/-- What a start does with a sensor that has been resumed. -/
def startResumed : Prog System Fault Unit :=
  Prog.tryCatch
    (do
      handlerSetup
      enableStreaming true)
    dropReference

theorem startResumed_powered :
    Stays (Frame.fixing powering) startResumed := by
  apply Keeps.tryCatch (S := fun _ => True)
  · exact (handlerSetup_stays powering_admits).bind fun _ =>
      enableStreaming_stays powering_admits.toAdmitsBus trivial trivial true
  · exact fun e _ => dropReference_powered e

theorem sStream_true :
    sStream binnedYOffset true =
      (pmRuntimeResumeAndGet pmField.ofDev (sensorResume binnedYOffset) >>=
        fun _ => startResumed) := rfl

/-- A start of a sensor that is resumed only takes a reference. -/
theorem start_active :
    Triple (fun s => Powered p s ∧ s.dev.pm.active = true)
      (sStream binnedYOffset true) (fun _ => Powered p) (fun _ => Powered p) := by
  rw [sStream_true]
  apply Triple.bind (Q := fun _ => Powered p)
  · apply Triple.bind (Q := fun _ s => Powered p s ∧ s.dev.pm.active = true)
    · exact Triple.modify fun _ hs => hs
    intro _
    apply Triple.gets_bind
    intro pm
    apply Triple.ite
    · exact fun _ => Triple.pure fun _ hs => hs.1.1
    · rintro hsuspended s ⟨⟨-, hactive⟩, rfl⟩
      exact absurd hactive hsuspended
  · exact fun _ => powered_of_stays startResumed_powered

/-- The resume of a suspended sensor. -/
theorem resume_suspended {os : List Bool} :
    Triple (fun s => Enabled 0 p s.dev.power ∧ s.dev.pm.active = false ∧
        s.bus.faults = os)
      (pmRuntimeResumeAndGet pmField.ofDev (sensorResume binnedYOffset))
      (fun _ s => Powered p s ∧ true ∉ os.take 2)
      (fun _ s => Powered p s ↔ true ∉ os.take 2) := by
  apply Triple.bind (Q := fun _ s => (Enabled 0 p s.dev.power ∧
    s.bus.faults = os) ∧ s.dev.pm.active = false)
  · exact Triple.modify fun _ hs => ⟨⟨hs.1, hs.2.2⟩, hs.2.1⟩
  intro _
  apply Triple.gets_bind
  intro pm
  apply Triple.ite
  · rintro hactive s ⟨⟨-, hsuspended⟩, rfl⟩
    have hsuspended : (pmField.ofDev.get s).active = false := hsuspended
    rw [hsuspended] at hactive
    cases hactive
  · intro _
    have hpm : Triple (fun s : System => s.dev.pm.active = false)
        (sensorResume binnedYOffset) (fun _ s => s.dev.pm.active = false)
        (fun _ s => s.dev.pm.active = false) := by
      apply ((resume_keeps_pm binnedYOffset).triple
        (P := fun s => s.dev.pm.active = false) ?_).consequence
          (fun _ h => h) (fun _ _ h => h) fun _ _ h => h.1
      intro s s' hsame hs
      have hsame : s'.dev.pm = s.dev.pm := hsame
      rwa [hsame]
    apply Triple.tryCatch (J := fun _ s =>
      (Enabled 0 p s.dev.power ↔ true ∉ os.take 2) ∧ s.dev.pm.active = false)
    · apply Triple.bind (Q := fun _ s =>
        Enabled 1 p s.dev.power ∧ true ∉ os.take 2)
      · exact ((sensorResume_enabled binnedYOffset).and hpm).consequence
          (fun _ h => h.1) (fun _ _ h => h.1) fun _ _ h => h
      · intro _
        exact Triple.modify fun _ hs => hs
    · intro e
      apply Triple.bind (Q := fun _ s =>
        (Enabled 0 p s.dev.power ↔ true ∉ os.take 2) ∧ s.dev.pm.active = false)
      · exact Triple.modify fun _ hs => hs
      · intro _
        apply Triple.raise
        rintro s ⟨hs, hsuspended⟩
        rwa [Powered, if_neg (Bool.not_eq_true _ ▸ hsuspended)]

/-- A start of a suspended sensor keeps the counts exactly if it can enable the
clock and the supplies. -/
theorem start_suspended {os : List Bool} :
    Triple (fun s => Enabled 0 p s.dev.power ∧ s.dev.pm.active = false ∧
        s.bus.faults = os) (sStream binnedYOffset true)
      (fun _ s => Powered p s ↔ true ∉ os.take 2)
      (fun _ s => Powered p s ↔ true ∉ os.take 2) := by
  rw [sStream_true]
  apply Triple.bind (resume_suspended binnedYOffset)
  intro _
  apply Triple.of_fact
  intro hos
  exact (powered_of_stays startResumed_powered).consequence (fun _ h => h)
    (fun _ _ h => iff_of_true h hos) fun _ _ h => iff_of_true h hos

theorem autosuspend_powered (lost : ℕ → BitVec 8) :
    Triple (Powered p) (autosuspend lost) (fun _ => Powered p)
      (fun _ => Powered p) := by
  apply Triple.gets_bind
  intro pm
  apply Triple.ite
  · rintro ⟨hactive, -⟩
    apply Triple.bind (Q := fun _ s => Enabled 0 p s.dev.power)
    · apply sensorPowerdown_enabled.consequence ?_ (fun _ _ h => h)
        fun _ _ h => h.elim
      rintro s ⟨hs, rfl⟩
      rwa [Powered, if_pos hactive] at hs
    · intro _
      apply Triple.bind (Q := fun _ s => Enabled 0 p s.dev.power)
      · exact Triple.modify fun _ hs => hs
      · exact fun _ => Triple.modify fun _ hs => hs
  · exact fun _ => Triple.modify fun _ hs => hs.1

/-- A call leaves the counts in step with runtime power management exactly if
it can enable what it has to. -/
theorem sysStep_powered_iff {s : System} (hs : Powered p s)
    (x : List Bool × Call) :
    Powered p (sysStep binnedYOffset s x) ↔ EnablesResume s x := by
  obtain ⟨os, c⟩ := x
  have hfacing : Powered p (s.facing os) := hs
  have hadmits := powering_admits
  have hkeep : ∀ {α : Type} {q : Prog System Fault α},
      Stays (Frame.fixing powering) q → Powered p (q (s.facing os)).2 :=
    fun hq => (powered_of_stays hq).final hfacing
  match c with
  | .setFmt which w h =>
      refine iff_of_true (hkeep (setFmt_stays hadmits (fun _ _ =>
        ⟨trivial, fun _ _ => trivial⟩) (fun _ _ => rfl) ?_ which w h)) trivial
      intro s which f
      cases which <;> rfl
  | .setSelection which target r =>
      refine iff_of_true (hkeep (setSelection_stays ?_ which target r)) trivial
      intro s which f
      cases which <;> rfl
  | .write i v =>
      exact iff_of_true (hkeep (writeControl_stays hadmits trivial
        (fun _ _ => trivial) trivial (fun _ _ => trivial) v)) trivial
  | .sStream false =>
      have hstop : Stays (Frame.fixing powering)
          (sStream binnedYOffset false) := by
        refine Keeps.bind ?_ fun _ => Keeps.modify fun _ => rfl
        apply Keeps.tryCatch (S := fun _ => True)
        · exact enableStreaming_stays hadmits.toAdmitsBus trivial trivial false
        · exact fun e _ => dropReference_powered e
      exact iff_of_true (hkeep hstop) trivial
  | .sStream true =>
      by_cases hactive : s.dev.pm.active = true
      · have hrun := (start_active binnedYOffset).final ⟨hfacing, hactive⟩
        refine iff_of_true hrun fun hsuspended => ?_
        rw [hactive] at hsuspended
        cases hsuspended
      · have hsuspended : s.dev.pm.active = false := Bool.not_eq_true _ ▸ hactive
        have hoff : Enabled 0 p s.dev.power := by
          rwa [Powered, if_neg hactive] at hs
        have hrun := (start_suspended binnedYOffset).final
          (s := s.facing os) ⟨hoff, hsuspended, rfl⟩
        exact hrun.trans ⟨fun h _ => h, fun h => h hsuspended⟩
  | .autosuspend lost =>
      exact iff_of_true ((autosuspend_powered lost).final hfacing) trivial

end Calls

/-! ## The steps of a probe -/

/-- The outcomes `os` are still to come, and nothing is enabled. -/
def Fresh (p : Power) (os : List Bool) (s : System) : Prop :=
  Enabled 0 p s.dev.power ∧ s.bus.faults = os

/-- How a probe that fails leaves the device, seen from a label at which `h` is
set up: with everything disabled again, or with more disabled than there
was enabled. -/
def Left (p : Power) (os : List Bool) (reaches : Prop) (h : Held)
    (s : Probing) : Prop :=
  During (fun s => Enabled 0 p s.dev.power) h s ∧
      (reaches → true ∉ os.take 2) ∨
    reaches ∧ true ∈ os.take 2 ∧ ¬ Enabled 0 p s.dev.dev.power

section Steps

variable (pf : Platform) {p : Power} {os : List Bool} {h : Held}

theorem setDevice_fresh {f : Device → Device} {E : Fault → Probing → Prop}
    (hf : ∀ d, (f d).power.xvclk = d.power.xvclk ∧
      (f d).power.supplies = d.power.supplies) :
    Triple (During (Fresh p os) h) (setDevice f)
      (fun _ => During (Fresh p os) h) E := by
  rintro s ⟨⟨hs, hos⟩, hheld⟩
  obtain ⟨hclk, hsup⟩ := hf s.dev.dev
  refine ⟨⟨⟨hclk.trans hs.xvclk, fun i => ?_⟩, hos⟩, hheld⟩
  exact (congrFun hsup i).trans (hs.supplies i)

theorem setDevice_bind {α : Type} {f : Device → Device}
    {k : Unit → Prog Probing Fault α} {Q : α → Probing → Prop}
    {E : Fault → Probing → Prop}
    (hf : ∀ d, (f d).power.xvclk = d.power.xvclk ∧
      (f d).power.supplies = d.power.supplies)
    (hk : Triple (During (Fresh p os) h) (k ()) Q E) :
    Triple (During (Fresh p os) h) (setDevice f >>= k) Q E :=
  Triple.bind (setDevice_fresh hf) fun _ => hk

/-- How a probe that is refused before the first label leaves the device. -/
def Refused (p : Power) (s : Probing) : Prop :=
  ∃ m, During (fun s => Enabled 0 p s.dev.power) ⟨false, m, false, false⟩ s

theorem acquire_fresh {m : Bool} :
    Triple (During (Fresh p os) ⟨false, m, false, false⟩) (acquire pf)
      (fun _ s => During (Fresh p os) ⟨false, true, false, false⟩ s ∧
        Acquired pf)
      (fun _ s => Refused p s ∧ ¬ Granted pf) := by
  have hrefused : ∀ {m : Bool} {s : Probing} {c : Prop},
      (Granted pf → c) → ¬ c → During (Fresh p os) ⟨false, m, false, false⟩ s →
        Refused p s ∧ ¬ Granted pf := fun hg hno hs =>
    ⟨⟨_, hs.1.1, hs.2⟩, fun h => hno (hg h)⟩
  have herror : ∀ {α : Type} {x : Except Errno α} {e : Errno},
      x = .error e → ¬ ∃ a, x = .ok a := by
    rintro α x e hx ⟨a, ha⟩
    rw [hx] at ha
    cases ha
  apply Triple.bind (Q := fun _ s =>
    During (Fresh p os) ⟨false, m, false, false⟩ s ∧ pf.memory = true)
  · apply Triple.when
    · intro hmemory
      apply Triple.raise
      exact fun s hs => hrefused Granted.memory (by rw [hmemory]; decide) hs
    · exact fun hmemory s hs => ⟨hs, Bool.not_eq_false _ ▸ hmemory⟩
  intro _
  apply Triple.of_fact
  intro hmemory
  refine setDevice_bind (fun _ => ⟨rfl, rfl⟩) ?_
  apply answer_bind ?_ fun e he s hs =>
    hrefused (fun hg => ⟨(), hg.regmap⟩) (herror he) hs
  intro _ hregmap
  apply answer_bind ?_ fun e he s hs =>
    hrefused (fun hg => ⟨(), hg.endpoint⟩) (herror he) hs
  intro _ hendpoint
  apply Triple.bind hold_during
  intro _
  apply answer_bind ?_ fun e he s hs =>
    hrefused Granted.xvclk (herror he) hs
  intro rate hrate
  apply Triple.bind (Q := fun _ s =>
    During (Fresh p os) ⟨false, true, false, false⟩ s ∧
      pf.resetGpio = .ok () ∧ pf.powerdownGpio = .ok ())
  · apply answer_bind ?_ fun e he s hs =>
      hrefused (fun hg => ⟨(), hg.resetGpio⟩) (herror he) hs
    intro _ hreset
    refine setDevice_bind (fun _ => ⟨rfl, rfl⟩) ?_
    apply answer_bind ?_ fun e he s hs =>
      hrefused (fun hg => ⟨(), hg.powerdownGpio⟩) (herror he) hs
    intro _ hpowerdown
    exact Triple.consequence (setDevice_fresh fun _ => ⟨rfl, rfl⟩)
      (fun _ hs => hs) (fun _ _ hs => ⟨hs, hreset, hpowerdown⟩)
        fun _ _ hs => hs
  intro _
  apply Triple.of_fact
  rintro ⟨hreset, hpowerdown⟩
  apply answer_bind ?_ fun e he s hs =>
    hrefused (fun hg => ⟨(), hg.regulators⟩) (herror he) hs
  intro _ hregulators
  refine setDevice_bind (fun _ => ⟨rfl, rfl⟩) ?_
  apply Triple.bind (Q := fun _ =>
    During (Fresh p os) ⟨false, true, false, false⟩)
  · exact fun s hs => hs
  intro vts
  exact Triple.consequence (setDevice_fresh fun _ => ⟨rfl, rfl⟩)
    (fun _ hs => hs) (fun _ _ hs => ⟨hs, hmemory, hregmap, hendpoint,
      ⟨rate, hrate⟩, hreset, hpowerdown, hregulators⟩) fun _ _ hs => hs

variable {reaches : Prop}

theorem hold_left {f : Held → Held} :
    Triple (Left p os reaches h) (hold f) (fun _ => Left p os reaches (f h))
      (fun _ _ => False) := by
  apply Triple.modify
  rintro s (⟨⟨hs, hheld⟩, hok⟩ | hshort)
  · exact Or.inl ⟨⟨hs, congrArg f hheld⟩, hok⟩
  · exact Or.inr hshort

theorem left_of_refused {s : Probing} (hs : During (Fresh p os) h s)
    (hno : ¬ reaches) : Left p os reaches h s :=
  Or.inl ⟨⟨hs.1.1, hs.2⟩, fun h => absurd h hno⟩

/-- What is granted to `ov5693_init_controls`. -/
structure ControlsGranted (pf : Platform) : Prop where
  handlerInit : pf.handlerInit = .ok ()
  handlerError : pf.handlerError = .ok ()
  fwnodeParse : pf.fwnodeParse = .ok ()
  fwnodeProperties : pf.fwnodeProperties = .ok ()

theorem newControls_fresh :
    Triple (During (Fresh p os) ⟨false, true, false, false⟩) (newControls pf)
      (fun _ s => During (Fresh p os) ⟨false, true, true, false⟩ s ∧
        ControlsGranted pf)
      (fun _ => Left p os (Granted pf) ⟨false, true, false, false⟩) := by
  have hrefused : ∀ {h : Held} {x : Except Errno Unit} {e : Errno},
      x = .error e → (Granted pf → x = .ok ()) → ∀ s,
        During (Fresh p os) h s → Left p os (Granted pf) h s := by
    intro h x e hx hgranted s hs
    apply left_of_refused hs
    intro hg
    rw [hgranted hg] at hx
    cases hx
  apply answer_bind ?_ fun e he => hrefused he Granted.handlerInit
  intro _ hinit
  apply Triple.bind hold_during
  intro _
  apply Triple.unwinding (J := fun _ =>
    Left p os (Granted pf) ⟨false, true, true, false⟩)
  · refine setDevice_bind (fun _ => ⟨rfl, rfl⟩) ?_
    apply answer_bind ?_ fun e he => hrefused he Granted.handlerError
    intro _ herror
    apply answer_bind ?_ fun e he => hrefused he Granted.fwnodeParse
    intro _ hparse s hs
    cases hproperties : pf.fwnodeProperties with
    | ok u => exact ⟨hs, hinit, herror, hparse, hproperties⟩
    | error e => exact hrefused hproperties Granted.fwnodeProperties s hs
  · exact fun _ => hold_left

/-- From chip detection on, what fails leaves the sensor powered. -/
theorem takeOver_enabled :
    Triple (During (fun s => Enabled 1 p s.dev.power) ⟨false, true, true, true⟩)
      (takeOver pf)
      (fun _ => During (fun s => Enabled 1 p s.dev.power ∧
        s.dev.pm.active = true) ⟨true, true, true, true⟩)
      (fun _ => During (fun s => Enabled 1 p s.dev.power)
        ⟨false, true, true, true⟩) := by
  have hdetect : Stays (Frame.fixing fun s : System => s.dev.power) detect := by
    refine Keeps.bind ?_ fun id => Keeps.when (Keeps.raise trivial)
    exact (transfer_stays power_admits.toAdmitsBus).bind fun _ => Keeps.gets _
  apply Triple.bind (onDevice_keeps (enabled_of_stays hdetect))
  intro _
  apply Triple.bind (Q := fun _ => During (fun s : System =>
    Enabled 1 p s.dev.power ∧ s.dev.pm.active = true)
      ⟨false, true, true, true⟩)
  · exact fun s hs => ⟨⟨hs.1, rfl⟩, hs.2⟩
  intro _
  apply Triple.bind hold_during
  intro _
  apply Triple.unwinding (J := fun _ => During (fun s : System =>
    Enabled 1 p s.dev.power ∧ s.dev.pm.active = true) ⟨true, true, true, true⟩)
  · intro s hs
    cases pf.subdev with
    | ok u => exact hs
    | error e => exact hs
  · intro _
    apply Triple.bind hold_during
    exact fun _ s hs => ⟨hs.1.1, hs.2⟩

/-- The steps under the labels. -/
theorem setUp_left (hacquired : Acquired pf) :
    Triple (During (Fresh p os) ⟨false, true, false, false⟩) (setUp pf)
      (fun _ s => Bound p s ∧ true ∉ os.take 2)
      (fun _ => Left p os (Granted pf) ⟨false, true, false, false⟩) := by
  apply Triple.bind (newControls_fresh pf)
  intro _
  apply Triple.of_fact
  rintro ⟨hinit, herror, hparse, hproperties⟩
  apply Triple.bind (Q := fun _ s => During (fun s : System =>
    Enabled 1 p s.dev.power ∧ s.dev.pm.active = true) ⟨true, true, true, true⟩
      s ∧ true ∉ os.take 2)
  · apply Triple.unwinding (J := fun _ =>
      Left p os (Granted pf) ⟨false, true, true, false⟩)
    · apply answer_bind ?_ fun e he s hs => ?_
      · intro _ hpads
        have hgranted : Granted pf := { hacquired with
          handlerInit := hinit
          handlerError := herror
          fwnodeParse := hparse
          fwnodeProperties := hproperties
          pads := hpads }
        apply Triple.bind hold_during
        intro _
        apply Triple.unwinding (J := fun _ =>
          Left p os (Granted pf) ⟨false, true, true, true⟩)
        · apply Triple.bind (Q := fun _ s => During (fun s : System =>
            Enabled 1 p s.dev.power) ⟨false, true, true, true⟩ s ∧
              true ∉ os.take 2)
          · apply (onDevice_during sensorPowerup_enabled).consequence
              (fun _ hs => hs)
            · exact fun _ s hs => ⟨⟨hs.1.1, hs.2⟩, hs.1.2⟩
            · exact fun _ s hs => Or.inr ⟨hgranted, hs.1⟩
          · intro _
            apply Triple.of_fact
            intro hos
            apply Triple.unwinding (J := fun _ => During (fun s : System =>
              Enabled 1 p s.dev.power) ⟨false, true, true, true⟩)
            · exact (takeOver_enabled pf).consequence (fun _ hs => hs)
                (fun _ _ hs => ⟨hs, hos⟩) fun _ _ hs => hs
            · intro _
              apply (onDevice_during sensorPowerdown_enabled).consequence
                (fun _ hs => hs) (fun _ _ hs => Or.inl ⟨hs, fun _ => hos⟩)
                  fun _ _ hs => hs.1
        · exact fun _ => hold_left
      · apply left_of_refused hs
        intro hg
        rw [hg.pads] at he
        cases he
    · exact fun _ => hold_left
  · rintro _ s ⟨⟨⟨henabled, hactive⟩, hheld⟩, hos⟩
    refine ⟨⟨?_, hheld⟩, hos⟩
    have hactive : (pmField.ofDev.update RuntimePm.put s.dev).dev.pm.active =
        true := hactive
    change Enabled (if (pmField.ofDev.update RuntimePm.put
      s.dev).dev.pm.active = true then 1 else 0) p _
    rw [if_pos hactive]
    exact henabled

end Steps

/-! ## Any number of lives -/

section Lives

variable (binnedYOffset : ℤ) {p : Power}

/-- The driver, bound with the outcomes of its enables and transfers and the
answers of the platform. -/
def boundDriver :
    BoundDriver Probing (List Bool × Platform) (List Bool × Call) where
  probe s x := probeDevice x.2 ⟨s.dev.facing x.1, s.held⟩
  call s x := ⟨sysStep binnedYOffset s.dev x, s.held⟩
  remove s := (remove s).2

/-- A probe that gets as far as its power-up can enable the clock and the
supplies. -/
def EnablesProbe (_ : Probing) (x : List Bool × Platform) : Prop :=
  Granted x.2 → true ∉ x.1.take 2

theorem idle_of_refused {s : Probing} (hs : Refused p s) : Idle p s := by
  obtain ⟨m, henabled, hheld⟩ := hs
  exact ⟨henabled, by rw [hheld]⟩

theorem refused_of_idle {s : Probing} (hs : Idle p s) : Refused p s := by
  obtain ⟨sys, ⟨pmEnabled, m, ctrls, entity⟩⟩ := s
  obtain ⟨henabled, hheld⟩ := hs
  obtain ⟨rfl, -, rfl, rfl⟩ := Held.mk.inj hheld
  exact ⟨m, henabled, rfl⟩

/-- The whole probe. -/
theorem probe_left (pf : Platform) {os : List Bool} {m : Bool} :
    Triple (During (Fresh p os) ⟨false, m, false, false⟩) (probeDevice pf)
      (fun _ s => Bound p s ∧ true ∉ os.take 2)
      (fun _ s => Idle p s ↔ (Granted pf → true ∉ os.take 2)) := by
  apply Triple.bind (Q := fun _ s =>
    During (Fresh p os) ⟨false, true, false, false⟩ s ∧ Acquired pf)
  · apply (acquire_fresh pf).consequence (fun _ hs => hs) (fun _ _ hs => hs)
    rintro _ s ⟨hs, hno⟩
    exact iff_of_true (idle_of_refused hs) fun hg => absurd hg hno
  intro _
  apply Triple.of_fact
  intro hacquired
  apply (setUp_left pf hacquired).consequence (fun _ hs => hs)
    (fun _ _ hs => hs)
  rintro _ s (⟨hs, hok⟩ | ⟨hgranted, hos, hshort⟩)
  · exact iff_of_true (idle_of_refused ⟨true, hs⟩) hok
  · exact iff_of_false (fun hidle => hshort hidle.enabled)
      fun hok => hok hgranted hos

theorem probe_counted_iff {s : Probing} (hs : Idle p s)
    (x : List Bool × Platform) :
    BoundDriver.ProbeInOrder (Idle p) (Bound p)
        (probeDevice x.2 ⟨s.dev.facing x.1, s.held⟩) ↔ EnablesProbe s x := by
  obtain ⟨os, pf⟩ := x
  obtain ⟨m, henabled, hheld⟩ := refused_of_idle hs
  have hrun := probe_left pf (⟨s.dev.facing os, s.held⟩ : Probing)
    ⟨⟨henabled, rfl⟩, hheld⟩
  revert hrun
  rcases probeDevice pf ⟨s.dev.facing os, s.held⟩ with ⟨_ | _, t⟩
  · exact fun hidle => hidle
  · exact fun hbound => iff_of_true hbound.1 fun _ => hbound.2

/-- A remove powers the sensor down if it is not suspended. -/
theorem remove_idle :
    Triple (Bound p) remove (fun _ => Idle p) (fun _ _ => False) := by
  refine Triple.strengthenPre ?_ fun s hs =>
    (⟨hs.powered, hs.held⟩ : During (Powered p) ⟨true, true, true, true⟩ s)
  apply Triple.bind hold_during
  intro _
  apply Triple.bind hold_during
  intro _
  apply Triple.bind hold_during
  intro _
  apply Triple.bind hold_during
  intro _
  apply Triple.gets_bind
  intro pm
  apply Triple.bind (Q := fun _ => During
    (fun s : System => Enabled 0 p s.dev.power) ⟨false, false, false, false⟩)
  · apply Triple.when
    · intro hactive
      apply (onDevice_during sensorPowerdown_enabled).consequence ?_
        (fun _ _ hs => hs) fun _ _ hs => hs.1
      rintro s ⟨⟨hpowered, hheld⟩, rfl⟩
      rw [Powered, if_pos hactive] at hpowered
      exact ⟨hpowered, hheld⟩
    · rintro hsuspended s ⟨⟨hpowered, hheld⟩, rfl⟩
      rw [Powered, if_neg hsuspended] at hpowered
      exact ⟨hpowered, hheld⟩
  · intro _ s hs
    exact ⟨hs.1, congrArg (fun h => { h with mutex := false }) hs.2⟩

/-- Over any number of lives, clock and supplies are enabled once while the
driver is bound and the sensor resumed, and as often as before the first probe
otherwise, exactly if no power-up fails to enable them: neither that of a probe
that gets so far, nor that of a start that has to resume the sensor.  Any
other step may fail or be refused. -/
theorem lives_counted_iff {s : Probing} (hs : Idle p s)
    (events : List (LifeCall (List Bool × Platform) (List Bool × Call))) :
    Throughout (boundDriver binnedYOffset).lifeStep
        ((boundDriver binnedYOffset).InOrder (Idle p) (Bound p)) (s, false)
          events ↔
      Along (boundDriver binnedYOffset).lifeStep
        ((boundDriver binnedYOffset).Admitted EnablesProbe
          fun s => EnablesResume s.dev) (s, false) events := by
  apply BoundDriver.inOrder_iff ?_ ?_ ?_ hs
  · exact fun s x hs => probe_counted_iff hs x
  · intro s x hs
    have hstep := sysStep_powered_iff binnedYOffset hs.powered x
    exact ⟨fun h => hstep.mp h.powered, fun h => ⟨hstep.mpr h, hs.held⟩⟩
  · intro s hs
    exact (remove_idle.consequence (fun _ h => h) (fun _ _ h => h)
      fun _ _ h => h.elim).final hs

end Lives

/-- A platform that grants everything, as far as `subdev` says. -/
def plainPlatform (subdev : Except Errno Unit) : Platform where
  memory := true
  regmap := .ok ()
  endpoint := .parsed 2 [linkFreq4192Mhz]
  xvclk := .ok 19200000
  resetGpio := .ok ()
  powerdownGpio := .ok ()
  regulators := .ok ()
  handlerInit := .ok ()
  handlerError := .ok ()
  fwnodeParse := .ok ()
  fwnodeProperties := .ok ()
  pads := .ok ()
  subdev := subdev

/-- A sensor with nothing but its chip id, before its driver is bound. -/
def plainDevice : Probing :=
  ⟨⟨blank, ⟨fun a => if a = regChipId then 0x56
    else if a = regChipId + 1 then 0x90 else 0, []⟩⟩,
    ⟨false, false, false, false⟩⟩

/-- A registration that is refused, and a life that ends while the sensor
streams after a resume that has failed once. -/
def twoLives : List (LifeCall (List Bool × Platform) (List Bool × Call)) :=
  [.probe ([], plainPlatform (.error .ebusy)), .probe ([], plainPlatform (.ok ())),
    .call ([], .autosuspend fun _ => 0),
    .call ([false, false, true], .sStream true), .call ([], .sStream true),
    .remove]

/-- Nothing that is enabled fails, and the counts are right throughout. -/
theorem lives_counted_two :
    Throughout (boundDriver 2).lifeStep
      ((boundDriver 2).InOrder (Idle blank.power) (Bound blank.power))
        (plainDevice, false) twoLives := by
  refine (lives_counted_iff 2 ⟨⟨rfl, fun _ => rfl⟩, rfl⟩ twoLives).mpr ?_
  have hprobe : ∀ (s : Probing) (pf : Platform), EnablesProbe s ([], pf) :=
    fun _ _ _ => List.not_mem_nil
  exact ⟨fun _ => hprobe _ _, fun _ => hprobe _ _, fun _ => trivial,
    fun _ _ => (by decide : true ∉ [false, false, true].take 2),
    fun _ _ => (by decide : true ∉ ([] : List Bool).take 2), trivial, trivial⟩

/-- A start whose supplies cannot be enabled disables them all the same, and what
follows in that life does not make up for it. -/
example :
    let x := run (boundDriver 2).lifeStep (plainDevice, false)
      [.probe ([], plainPlatform (.ok ())), .call ([], .autosuspend fun _ => 0),
        .call ([false, true], .sStream true), .remove]
    x.2 = false ∧ x.1.dev.dev.power.xvclk = 0 ∧
      x.1.dev.dev.power.supplies 0 = -1 := by
  decide +kernel

end Ov5693
end SurfaceCameras
