import SurfaceCameras.Kernel.Sessions
import SurfaceCameras.Ov5693.System
import SurfaceCameras.Ov7251.ExposureFrame
import SurfaceCameras.Ov7251.System

/-!
# The references that streaming holds

Both drivers take a reference when a stream is started and drop it when it is
stopped.  Their failure paths drop it too, each driver with its own variant of
put, and control writes take one of their own for the time of the write.
-/

namespace SurfaceCameras

open Kernel Prog Runs

/-! ## The OV5693 driver -/

namespace Ov5693

open Device

section Parameters

variable (binnedYOffset : ℤ)

/-- The driver as the V4L2 core sees it. -/
def streamDriver : StreamDriver System (List Bool × Call) where
  step := sysStep binnedYOffset
  stream x :=
    match x.2 with
    | .sStream enable => some enable
    | _ => none
  succeeds s x :=
    match x.2 with
    | .sStream enable => (sStream binnedYOffset enable (s.facing x.1)).1.isOk
    | _ => true
  pm := pmField.ofDev

theorem start_usage (u : ℕ) :
    Triple (fun s => (pmField.ofDev.get s).usage = u)
      (sStream binnedYOffset true)
      (fun _ s => (pmField.ofDev.get s).usage = u + 1)
      (fun _ s => (pmField.ofDev.get s).usage = u) := by
  apply Triple.bind (Q := fun _ s => (pmField.ofDev.get s).usage = u + 1)
  · exact (pmRuntimeResumeAndGet_usage (resume_keeps_pm binnedYOffset)
      u).consequence (fun _ hs => hs) (fun _ _ hs => hs.2) fun _ _ hs => hs
  intro _
  apply Triple.tryCatch (J := fun _ s => (pmField.ofDev.get s).usage = u + 1)
  · apply usage_of_stays
    exact (handlerSetup_stays pm_admits).bind fun _ =>
      enableStreaming_stays pm_admits.toAdmitsBus trivial trivial true
  · intro e
    apply Triple.bind (Q := fun _ s => (pmField.ofDev.get s).usage = u)
    · exact (pmRuntimePutNoidle_usage (u + 1)).consequence (fun _ hs => hs)
        (fun _ _ hs => hs) fun _ _ hs => hs.elim
    · exact fun _ => Triple.raise fun _ hs => hs

theorem stop_usage (u : ℕ) :
    Triple (fun s => (pmField.ofDev.get s).usage = u)
      (sStream binnedYOffset false)
      (fun _ s => (pmField.ofDev.get s).usage = u - 1)
      (fun _ s => (pmField.ofDev.get s).usage = u - 1) := by
  apply Triple.bind (Q := fun _ s => (pmField.ofDev.get s).usage = u)
  · apply Triple.tryCatch (J := fun _ s => (pmField.ofDev.get s).usage = u)
    · apply usage_of_stays
      exact enableStreaming_stays pm_admits.toAdmitsBus trivial trivial false
    · intro e
      apply Triple.bind (Q := fun _ s => (pmField.ofDev.get s).usage = u - 1)
      · exact (pmRuntimePutNoidle_usage u).consequence (fun _ hs => hs)
          (fun _ _ hs => hs) fun _ _ hs => hs.elim
      · exact fun _ => Triple.raise fun _ hs => hs
  · intro _
    exact (pmRuntimePut_usage u).consequence (fun _ hs => hs)
      (fun _ _ hs => hs) fun _ _ hs => hs.elim

/-- A suspend happens to a device that nobody holds. -/
theorem autosuspend_usage (lost : ℕ → BitVec 8) (u : ℕ) :
    Triple (fun s => (pmField.ofDev.get s).usage = u) (autosuspend lost)
      (fun _ s => (pmField.ofDev.get s).usage = u)
      (fun _ s => (pmField.ofDev.get s).usage = u) := by
  apply Triple.bind (Q := fun _ s => (pmField.ofDev.get s).usage = u)
  · exact Triple.gets fun _ hs => hs
  intro pm
  apply Triple.ite
  · intro _
    apply Triple.bind (Q := fun _ s => (pmField.ofDev.get s).usage = u)
    · exact Triple.modify fun _ hs => hs
    intro _
    apply Triple.bind (Q := fun _ s => (pmField.ofDev.get s).usage = u)
    · exact Triple.modify fun _ hs => hs
    exact fun _ => Triple.modify fun _ hs => hs
  · exact fun _ => Triple.modify fun _ hs => hs

theorem streamDriver_balances : (streamDriver binnedYOffset).Balances where
  start s x hx := by
    obtain ⟨os, c⟩ := x
    cases c with
    | sStream enable =>
        obtain rfl : enable = true := Option.some.inj hx
        exact usage_of_start (start_usage binnedYOffset) (s.facing os)
    | _ => cases hx
  stop s x hx := by
    obtain ⟨os, c⟩ := x
    cases c with
    | sStream enable =>
        obtain rfl : enable = false := Option.some.inj hx
        exact usage_of_both (stop_usage binnedYOffset) (s.facing os)
    | _ => cases hx
  other s x hx := by
    have hpad : ∀ (s : System) (which : Which) f, pmField.ofDev.get
        ((padState which).ofDev.update f s) = pmField.ofDev.get s := by
      intro s which f
      cases which <;> rfl
    obtain ⟨os, c⟩ := x
    cases c with
    | setFmt which w h =>
        exact usage_of_both (f := id) (usage_of_stays
          (setFmt_stays pm_admits (fun _ _ => ⟨trivial, fun _ _ => trivial⟩)
            (fun _ _ => rfl) hpad which w h))
            (s.facing os)
    | setSelection which target r =>
        exact usage_of_both (f := id) (usage_of_stays
          (setSelection_stays hpad which target r)) (s.facing os)
    | write i v =>
        exact usage_of_both (f := id) (usage_of_stays
          (writeControl_stays pm_admits trivial (fun _ _ => trivial) trivial
            (fun _ _ => trivial) v)) (s.facing os)
    | sStream enable => cases hx
    | autosuspend lost =>
        exact usage_of_both (f := id) (autosuspend_usage lost) (s.facing os)

end Parameters

end Ov5693

/-! ## The OV7251 driver -/

namespace Ov7251

open Device

section Parameters

variable (par : Params) (nearest : ℕ → ℕ → Fin 3)

/-- The driver as the V4L2 core sees it. -/
def streamDriver : StreamDriver Device (List Bool × SysCall) where
  step := sysStep par nearest
  stream x :=
    match x.2 with
    | .stream _ enable => some enable
    | _ => none
  succeeds d x :=
    match x.2 with
    | .stream hasLed enable =>
        (sStream par hasLed enable (d.facing x.1)).1.isOk
    | _ => true
  pm := pmField

theorem start_usage (hasLed : Bool) (u : ℕ) :
    Triple (fun d => (pmField.get d).usage = u) (sStream par hasLed true)
      (fun _ d => (pmField.get d).usage = u + 1)
      (fun _ d => (pmField.get d).usage = u) := by
  have hresume : Stays (Frame.fixing pmField.get) setPowerOn :=
    setPowerOn_stays pm_admits.toAdmitsBus (fun _ _ => rfl) fun _ _ => trivial
  apply Triple.bind (Q := fun _ d => (pmField.get d).usage = u + 1)
  · exact (pmRuntimeResumeAndGet_usage hresume u).consequence
      (fun _ hd => hd) (fun _ _ hd => hd.2) fun _ _ hd => hd
  intro _
  apply Triple.tryCatch (J := fun _ d => (pmField.get d).usage = u + 1)
  · apply usage_of_stays
    refine (pllConfigure_stays pm_admits.toAdmitsBus par fun _ _ => trivial).bind
      fun _ => ?_
    refine (Keeps.gets _).bind fun mode => ?_
    refine (setRegisterArray_stays pm_admits.toAdmitsBus fun _ _ => trivial).bind
      fun _ => ?_
    refine (handlerSetup_stays pm_admits (fun _ _ => trivial) par).bind
      fun _ => ?_
    exact (writeReg_stays pm_admits.toAdmitsBus trivial _).bind fun _ =>
      irLedSet_stays pm_admits.toAdmitsBus trivial trivial hasLed true
  · intro e
    apply Triple.bind (Q := fun _ d => (pmField.get d).usage = u)
    · exact (pmRuntimePut_usage (u + 1)).consequence (fun _ hd => hd)
        (fun _ _ hd => hd) fun _ _ hd => hd.elim
    · exact fun _ => Triple.raise fun _ hd => hd

theorem stop_usage (hasLed : Bool) (u : ℕ) :
    Triple (fun d => (pmField.get d).usage = u) (sStream par hasLed false)
      (fun _ d => (pmField.get d).usage = u - 1)
      (fun _ d => (pmField.get d).usage = u - 1) := by
  have hput : Triple (fun d => (pmField.get d).usage = u)
      (pmRuntimePut pmField) (fun _ d => (pmField.get d).usage = u - 1)
      (fun _ d => (pmField.get d).usage = u - 1) :=
    (pmRuntimePut_usage u).consequence (fun _ hd => hd) (fun _ _ hd => hd)
      fun _ _ hd => hd.elim
  apply Triple.bind (Q := fun _ d => (pmField.get d).usage = u)
  · apply Triple.tryCatch (J := fun _ d => (pmField.get d).usage = u)
    · exact usage_of_stays
        (irLedSet_stays pm_admits.toAdmitsBus trivial trivial hasLed false) u
    · exact fun _ => Triple.pure fun _ hd => hd
  intro _
  apply Triple.tryFinally
    (usage_of_stays (writeReg_stays pm_admits.toAdmitsBus trivial 0x0) u)
  · exact fun _ => hput
  · exact fun _ _ => hput
  · intro _ _ hskip
    cases hskip

/-- A suspend happens to a device that nobody holds. -/
theorem autosuspend_usage (lost : ℕ → BitVec 8) (u : ℕ) :
    Triple (fun d => (pmField.get d).usage = u) (autosuspend lost)
      (fun _ d => (pmField.get d).usage = u)
      (fun _ d => (pmField.get d).usage = u) := by
  have hoff : Stays (Frame.fixing pmField.get) setPowerOff :=
    (setPower_stays (fun _ _ => rfl) _).bind fun _ =>
      setPower_stays (fun _ _ => rfl) _
  apply Triple.bind (Q := fun _ d => (pmField.get d).usage = u)
  · exact Triple.gets fun _ hd => hd
  intro pm
  apply Triple.ite
  · intro _
    apply Triple.bind (usage_of_stays hoff u)
    intro _
    apply Triple.bind (Q := fun _ d => (pmField.get d).usage = u)
    · exact Triple.modify fun _ hd => hd
    exact fun _ => Triple.modify fun _ hd => hd
  · exact fun _ => Triple.modify fun _ hd => hd

theorem streamDriver_balances : (streamDriver par nearest).Balances where
  start d x hx := by
    obtain ⟨os, c⟩ := x
    cases c with
    | stream hasLed enable =>
        obtain rfl : enable = true := Option.some.inj hx
        exact usage_of_start (start_usage par hasLed) (d.facing os)
    | _ => cases hx
  stop d x hx := by
    obtain ⟨os, c⟩ := x
    cases c with
    | stream hasLed enable =>
        obtain rfl : enable = false := Option.some.inj hx
        exact usage_of_both (stop_usage par hasLed) (d.facing os)
    | _ => cases hx
  other d x hx := by
    obtain ⟨os, c⟩ := x
    cases c with
    | call c =>
        cases c with
        | setFormat w h =>
            exact usage_of_both (f := id) (usage_of_stays
              (setFormat_stays pm_admits (fun _ _ => trivial) par
                (fun _ _ => rfl) (fun _ _ => rfl) fun _ => rfl))
                  (d.facing os)
        | setFrameInterval t =>
            exact usage_of_both (f := id) (usage_of_stays
              (setFrameInterval_stays pm_admits (fun _ _ => trivial) par
                (fun _ _ => rfl) t)) (d.facing os)
        | write i v =>
            exact usage_of_both (f := id) (usage_of_stays
              (writeControl_stays pm_admits (fun _ _ => trivial) par v
                fun _ d => by cases i <;> rfl)) (d.facing os)
    | stream hasLed enable => cases hx
    | autosuspend lost =>
        exact usage_of_both (f := id) (autosuspend_usage lost) (d.facing os)

end Parameters

end Ov7251

/-! ## Both drivers -/

/-- Whatever fails, both drivers hold their device once while they stream and
not otherwise, and no control write changes that. -/
theorem drivers_countStreams (binnedYOffset : ℤ) (par : Ov7251.Params)
    (nearest : ℕ → ℕ → Fin 3) :
    (∀ (s : Ov5693.System) (calls : List (List Bool × Ov5693.Call)),
      Along (Ov5693.streamDriver binnedYOffset).sessionStep
        (Ov5693.streamDriver binnedYOffset).Alternates (s, false) calls →
          (Ov5693.streamDriver binnedYOffset).CountsStreams s calls) ∧
    (∀ (d : Ov7251.Device) (calls : List (List Bool × Ov7251.SysCall)),
      Along (Ov7251.streamDriver par nearest).sessionStep
        (Ov7251.streamDriver par nearest).Alternates (d, false) calls →
          (Ov7251.streamDriver par nearest).CountsStreams d calls) := by
  constructor
  · intro s calls hcalls
    exact (Ov5693.streamDriver_balances binnedYOffset).countsStreams hcalls
  · intro d calls hcalls
    exact (Ov7251.streamDriver_balances par nearest).countsStreams hcalls

/-- A start that succeeds, a control write and a stop that fails. -/
theorem drivers_countStreams_stopFailed :
    (Ov5693.streamDriver 2).CountsStreams (Ov5693.probe fun _ => 0)
        [([], .sStream true), ([], .write .vflip 1),
          ([true], .sStream false)] ∧
      (Ov7251.streamDriver Ov7251.stockParams fun _ _ =>
        Ov7251.initialMode).CountsStreams
          (Ov7251.probe Ov7251.stockParams (fun _ _ => Ov7251.initialMode)
            Ov7251.plainBoard)
        [([], .stream false true), ([], .call (.write .vflip 1)),
          ([true], .stream false false)] := by
  obtain ⟨h5693, h7251⟩ := drivers_countStreams 2 Ov7251.stockParams
    fun _ _ => Ov7251.initialMode
  constructor
  · apply h5693
    refine ⟨fun enable h => (Option.some.inj h).symm, fun enable h => ?_,
      fun enable h => ?_, trivial⟩
    · cases h
    · obtain rfl : false = enable := Option.some.inj h
      decide +kernel
  · apply h7251
    refine ⟨fun enable h => (Option.some.inj h).symm, fun enable h => ?_,
      fun enable h => ?_, trivial⟩
    · cases h
    · obtain rfl : false = enable := Option.some.inj h
      decide +kernel

end SurfaceCameras
