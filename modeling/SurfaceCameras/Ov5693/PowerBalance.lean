import SurfaceCameras.Ov5693.Frames

/-!
# Enable counts of the OV5693 power sequence

Powering the sensor up enables its clock and its supplies once, powering it
down disables them once.  A power-up that fails runs the whole power-down, also
for what it did not get to enable.
-/

namespace SurfaceCameras
namespace Ov5693

open Kernel Device Prog Runs

/-- `ov5693_sensor_suspend`. -/
def sensorSuspend : Prog System Fault Unit := sensorPowerdown

/-- The sensor is out of power-down. -/
def Power.powered (p : Power) : Bool := !p.powerdown

/-- Clock and supplies are enabled once if the sensor is powered, and not at
all otherwise. -/
structure Balanced (p : Power) : Prop where
  xvclk : p.xvclk = if p.powered then 1 else 0
  supplies : ∀ i, p.supplies i = if p.powered then 1 else 0

/-! ## Disabling only what is enabled -/

/-- What `ov5693_sensor_powerdown` does to the power state. -/
def Power.down (p : Power) : Power where
  reset := true
  powerdown := true
  xvclk := p.xvclk - 1
  supplies := fun i => p.supplies i - 1

/-- The same, but for what is not enabled. -/
def Power.downEnabled (p : Power) : Power where
  reset := true
  powerdown := true
  xvclk := if 0 < p.xvclk then p.xvclk - 1 else p.xvclk
  supplies := fun i =>
    if 0 < p.supplies i then p.supplies i - 1 else p.supplies i

/-- `ov5693_sensor_powerup` with another power-down on its failure path. -/
def sensorPowerupWith (down : Power → Power) : Prog System Fault Unit := do
  Prog.modify (powerField.ofDev.update fun p =>
    { p with reset := true, powerdown := true })
  Prog.tryCatch
    (do
      tryEnable fun p => { p with xvclk := p.xvclk + 1 }
      tryEnable fun p => { p with supplies := fun i => p.supplies i + 1 })
    (fun e => do
      Prog.modify (powerField.ofDev.update down)
      Prog.raise e)
  Prog.modify (powerField.ofDev.update fun p =>
    { p with powerdown := false, reset := false })

/-- `ov5693_sensor_resume` with another power-down on its failure paths. -/
def sensorResumeWith (binnedYOffset : ℤ) (down : Power → Power) :
    Prog System Fault Unit := do
  sensorPowerupWith down
  Prog.tryCatch (sensorInit binnedYOffset)
    (fun e => do
      Prog.modify (powerField.ofDev.update down)
      Prog.raise e)

/-- A call of one of the power functions. -/
inductive PowerCall where
  | powerup
  | powerdown
  | resume
  | suspend
  deriving DecidableEq, Repr

section Parameters

variable (binnedYOffset : ℤ)

/-- The function a call runs. -/
def powerOp : PowerCall → Prog System Fault Unit
  | .powerup => sensorPowerup
  | .powerdown => sensorPowerdown
  | .resume => sensorResume binnedYOffset
  | .suspend => sensorSuspend

/-- The function a call runs, with the power-down given. -/
def powerOpWith (down : Power → Power) : PowerCall → Prog System Fault Unit
  | .powerup => sensorPowerupWith down
  | .resume => sensorResumeWith binnedYOffset down
  | .powerdown | .suspend => Prog.modify (powerField.ofDev.update down)

/-- The system after a call whose transfers and enables have these
outcomes. -/
def powerStep (s : System) : List Bool × PowerCall → System
  | (outcomes, c) => (powerOp binnedYOffset c (s.facing outcomes)).2

/-- A powered sensor is powered down, one that is not is powered up: what
runtime power management and `ov5693_probe` see to. -/
def InOrder (s : System) (x : List Bool × PowerCall) : Prop :=
  match x.2 with
  | .powerup | .resume => s.dev.power.powered = false
  | .powerdown | .suspend => s.dev.power.powered = true

/-- The call disables nothing that is not enabled, and leaves the counts
balanced. -/
def PowersSafely (s : System) (x : List Bool × PowerCall) : Prop :=
  powerOp binnedYOffset x.2 (s.facing x.1) =
      powerOpWith binnedYOffset Power.downEnabled x.2 (s.facing x.1) ∧
    Balanced (powerStep binnedYOffset s x).dev.power

/-- The clock and the supplies of a power-up can be enabled. -/
def EnablesSucceed : List Bool × PowerCall → Prop
  | (outcomes, .powerup) => true ∉ outcomes.take 2
  | (outcomes, .resume) => true ∉ outcomes.take 2
  | _ => True

/-! ## Power-up -/

theorem Balanced.up {p : Power} (hp : Balanced p) (hoff : p.powered = false) :
    Balanced (Power.up p) := by
  obtain ⟨hclk, hsup⟩ := hp
  simp only [hoff] at hclk hsup
  constructor
  · simp [Power.up, Power.powered, hclk]
  · intro i
    simp [Power.up, Power.powered, hsup i]

theorem Balanced.down {p : Power} (hp : Balanced p) (hon : p.powered = true) :
    Balanced p.down ∧ p.down = p.downEnabled := by
  obtain ⟨hclk, hsup⟩ := hp
  simp only [hon, if_true] at hclk hsup
  refine ⟨⟨?_, ?_⟩, ?_⟩
  · simp [Power.down, Power.powered, hclk]
  · intro i
    simp [Power.down, Power.powered, hsup i]
  · simp [Power.down, Power.downEnabled, hclk, hsup]

theorem sensorPowerupWith_ok (down : Power → Power) (s : System)
    {os : List Bool} (hos : true ∉ os.take 2) :
    sensorPowerupWith down (s.facing os) =
      (.ok (), powerField.ofDev.update Power.up (s.facing (os.drop 2))) := by
  match os, hos with
  | [], _ => rfl
  | [false], _ => rfl
  | false :: false :: rest, _ => rfl
  | true :: rest, hos => simp at hos
  | false :: true :: rest, hos => simp at hos

/-- Without the clock, or without the supplies, it powers down what was not
powered up. -/
theorem sensorPowerupWith_error {os : List Bool} (hos : true ∈ os.take 2) :
    ∃ (n : ℤ) (os' : List Bool), ∀ (down : Power → Power) (s : System),
      sensorPowerupWith down (s.facing os) =
        (.error (.errno .eio), powerField.ofDev.update (fun p =>
          down { p with
            reset := true, powerdown := true, xvclk := p.xvclk + n })
              (s.facing os')) := by
  match os, hos with
  | true :: rest, _ =>
      refine ⟨0, rest, fun down s => ?_⟩
      simp only [Int.add_zero]
      rfl
  | false :: true :: rest, _ => exact ⟨1, rest, fun down s => rfl⟩
  | [false], hos => simp at hos
  | false :: false :: rest, hos => simp at hos
  | [], hos => simp at hos

/-! ## One call -/

theorem power_admits :
    Admits (Frame.fixing fun s => s.dev.power) everywhere everywhere where
  outcomes _ _ := rfl
  store _ _ _ _ := rfl
  hold _ _ _ h := h
  ctrl _ id _ _ := by cases id <;> rfl

/-- What a failed power-up leaves is not balanced: the supplies were disabled
and never enabled. -/
theorem Balanced.not_down {p : Power} (hp : Balanced p)
    (hoff : p.powered = false) (n : ℤ) :
    ¬ Balanced (Power.down
      { p with reset := true, powerdown := true, xvclk := p.xvclk + n }) := by
  intro hdown
  have hzero : p.supplies 0 = 0 := by simpa [hoff] using hp.supplies 0
  have hcount : p.supplies 0 - 1 = 0 := hdown.supplies 0
  omega

/-- The part of a resume past the power-up. -/
def initOrPowerdown (down : Power → Power) : Prog System Fault Unit :=
  Prog.tryCatch (sensorInit binnedYOffset)
    (fun e => do
      Prog.modify (powerField.ofDev.update down)
      Prog.raise e)

/-- Past the power-up, a resume ends with the sensor powered, or powers down
what was powered up. -/
theorem initOrPowerdown_safe {s : System} (hs : Balanced s.dev.power)
    (hon : s.dev.power.powered = true) :
    initOrPowerdown binnedYOffset Power.down s =
        initOrPowerdown binnedYOffset Power.downEnabled s ∧
      Balanced (initOrPowerdown binnedYOffset Power.down s).2.dev.power := by
  have hpower := sensorInit_stays power_admits binnedYOffset s s rfl
  obtain ⟨hdown, heq⟩ := hs.down hon
  unfold initOrPowerdown Prog.tryCatch
  revert hpower
  rcases sensorInit binnedYOffset s with ⟨e | _, s'⟩
  · rintro ⟨hpower, -⟩
    have hpower : s'.dev.power = s.dev.power := hpower
    rw [← hpower] at hdown heq
    refine ⟨?_, hdown⟩
    exact congrArg (fun p => (Except.error e,
      ({ s' with dev := { s'.dev with power := p } } : System))) heq
  · intro hpower
    have hpower : s'.dev.power = s.dev.power := hpower
    rw [← hpower] at hs
    exact ⟨rfl, hs⟩

/-- A balanced sensor that is off is powered up safely exactly if clock and
supplies can be enabled. -/
theorem powerup_safe_iff {s : System} (hs : Balanced s.dev.power)
    (hoff : s.dev.power.powered = false) (os : List Bool) :
    PowersSafely binnedYOffset s (os, .powerup) ↔ true ∉ os.take 2 := by
  constructor
  · rintro ⟨-, hbalanced⟩ hos
    obtain ⟨n, os', herr⟩ := sensorPowerupWith_error hos
    have hstep : (powerStep binnedYOffset s (os, .powerup)).dev.power = _ :=
      congrArg (fun x => x.2.dev.power) (herr Power.down s)
    rw [hstep] at hbalanced
    exact hs.not_down hoff n hbalanced
  · intro hos
    have hok := fun down => sensorPowerupWith_ok down s hos
    refine ⟨(hok Power.down).trans (hok Power.downEnabled).symm, ?_⟩
    have hstep : (powerStep binnedYOffset s (os, .powerup)).dev.power = _ :=
      congrArg (fun x => x.2.dev.power) (hok Power.down)
    rw [hstep]
    exact hs.up hoff

theorem resume_safe_iff {s : System} (hs : Balanced s.dev.power)
    (hoff : s.dev.power.powered = false) (os : List Bool) :
    PowersSafely binnedYOffset s (os, .resume) ↔ true ∉ os.take 2 := by
  constructor
  · rintro ⟨-, hbalanced⟩ hos
    obtain ⟨n, os', herr⟩ := sensorPowerupWith_error hos
    have hrun := Prog.bind_error (f := fun _ =>
      initOrPowerdown binnedYOffset Power.down) (herr Power.down s)
    have hstep : (powerStep binnedYOffset s (os, .resume)).dev.power = _ :=
      congrArg (fun x => x.2.dev.power) hrun
    rw [hstep] at hbalanced
    exact hs.not_down hoff n hbalanced
  · intro hos
    have hrun := fun down => Prog.bind_ok
      (f := fun _ => initOrPowerdown binnedYOffset down)
        (sensorPowerupWith_ok down s hos)
    obtain ⟨heq, hbalanced⟩ := initOrPowerdown_safe binnedYOffset
      (s := powerField.ofDev.update Power.up (s.facing (os.drop 2)))
        (hs.up hoff) rfl
    refine ⟨(hrun Power.down).trans (heq.trans (hrun Power.downEnabled).symm),
      ?_⟩
    have hstep : (powerStep binnedYOffset s (os, .resume)).dev.power = _ :=
      congrArg (fun x => x.2.dev.power) (hrun Power.down)
    rw [hstep]
    exact hbalanced

theorem powerdown_safe {s : System} (hs : Balanced s.dev.power)
    (hon : s.dev.power.powered = true) (os : List Bool) :
    PowersSafely binnedYOffset s (os, .powerdown) := by
  obtain ⟨hdown, heq⟩ := hs.down hon
  refine ⟨?_, hdown⟩
  exact congrArg (fun p => (Except.ok (),
    ({ s.facing os with dev := { s.dev with power := p } } : System))) heq

theorem step_safe_iff {s : System} (hs : Balanced s.dev.power)
    {x : List Bool × PowerCall} (hx : InOrder s x) :
    PowersSafely binnedYOffset s x ↔ EnablesSucceed x := by
  obtain ⟨os, c⟩ := x
  cases c with
  | powerup => exact powerup_safe_iff binnedYOffset hs hx os
  | resume => exact resume_safe_iff binnedYOffset hs hx os
  | powerdown => exact iff_true_intro (powerdown_safe binnedYOffset hs hx os)
  | suspend => exact iff_true_intro (powerdown_safe binnedYOffset hs hx os)

/-! ## Runs -/

/-- In every run of the power functions the counts stay balanced, and nothing
is disabled that is not enabled, exactly if no power-up fails to enable its
clock or its supplies.  What fails after that is undone. -/
theorem powersSafely_iff {s : System} (hs : Balanced s.dev.power)
    (calls : List (List Bool × PowerCall))
    (horder : Along (powerStep binnedYOffset) InOrder s calls) :
    Along (powerStep binnedYOffset) (PowersSafely binnedYOffset) s calls ↔
      ∀ x ∈ calls, EnablesSucceed x := by
  have hforall : Along (powerStep binnedYOffset) (fun _ => EnablesSucceed) s
      calls ↔ ∀ x ∈ calls, EnablesSucceed x :=
    along_forall_iff s calls
  rw [← hforall]
  apply along_iff_along_of (I := fun s => Balanced s.dev.power) ?_ ?_ hs horder
  · exact fun _ _ _ _ h => h.2
  · exact fun s x hs hx => step_safe_iff binnedYOffset hs hx

end Parameters

/-- A sensor that has never been powered. -/
def unpowered : System :=
  ⟨{ blank with power := ⟨true, true, 0, fun _ => 0⟩ }, ⟨fun _ => 0, []⟩⟩

theorem unpowered_balanced : Balanced unpowered.dev.power :=
  ⟨rfl, fun _ => rfl⟩

/-- A resume that fails at its first register write, and one that does not, keep
the counts balanced. -/
theorem powersSafely_resumed :
    Along (powerStep 2) (PowersSafely 2) unpowered
      [([false, false, true], .resume), ([], .resume), ([], .suspend)] := by
  have hfailed : (powerStep 2 unpowered
      ([false, false, true], .resume)).dev.power.powered = false := by
    decide +kernel
  have hresumed : (powerStep 2 (powerStep 2 unpowered
      ([false, false, true], .resume)) ([], .resume)).dev.power.powered =
        true := by
    decide +kernel
  have horder : Along (powerStep 2) InOrder unpowered
      [([false, false, true], .resume), ([], .resume), ([], .suspend)] :=
    ⟨rfl, hfailed, hresumed, trivial⟩
  refine (powersSafely_iff 2 unpowered_balanced _ horder).mpr fun x hx => ?_
  simp only [List.mem_cons, List.not_mem_nil, or_false] at hx
  obtain rfl | rfl | rfl := hx
  · exact (by decide : true ∉ [false, false, true].take 2)
  · exact (by decide : true ∉ ([] : List Bool).take 2)
  · exact trivial

/-- A power-up whose clock cannot be enabled disables it all the same. -/
theorem powersSafely_fails :
    ¬ ∀ (binnedYOffset : ℤ) (s : System) (calls : List (List Bool × PowerCall)),
      Balanced s.dev.power →
        Along (powerStep binnedYOffset) InOrder s calls →
          Along (powerStep binnedYOffset) (PowersSafely binnedYOffset) s
            calls := by
  intro h
  have hcount := (h 2 unpowered [([true], .powerup)] unpowered_balanced
    ⟨rfl, trivial⟩).1.2.xvclk
  revert hcount
  decide +kernel

end Ov5693
end SurfaceCameras
