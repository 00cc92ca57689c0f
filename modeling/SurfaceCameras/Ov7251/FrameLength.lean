import SurfaceCameras.Ov7251.ExposureFrame
import SurfaceCameras.Ov7251.System

/-!
# The frame length the OV7251 streams with

A start writes the frame length twice: with the register table of the mode, and
from the vertical blanking when the controls are set up.  The second write
wins.  Selecting a mode leaves the value of the vertical blanking alone, so a
sensor whose blanking nobody writes streams with the frame length of the first
mode, whichever mode is the current one.
-/

namespace SurfaceCameras
namespace Ov7251

open Kernel Device Prog Runs

/-- The frame length in the registers. -/
def vtsRegister (d : Device) : ℕ :=
  (d.bus.regs 0x380e).toNat * 256 + (d.bus.regs 0x380f).toNat

/-- The call does not write the vertical blanking. -/
def SysCall.SparesBlanking : SysCall → Prop
  | .call (.write i _) => i ≠ .vblank
  | _ => True

/-! ## The blanking control -/

/-- The vertical blanking has the value `v`, in the range it starts with. -/
structure Blanked (v : ℤ) (d : Device) : Prop where
  val : d.vblank.val = v
  cur : d.vblank.cur = v
  minimum : d.vblank.minimum = timingMinVts
  maximum : d.vblank.maximum = timingMaxVts - 480

variable {v : ℤ}

/-- A change of one control that keeps the range, and the value if it is the
vertical blanking. -/
theorem Blanked.update {d : Device} (hd : Blanked v d) (i : CtrlId)
    {f : Ctrl → Ctrl}
    (hf : i = .vblank → ∀ c, c.val = v → c.cur = v →
      c.minimum = timingMinVts → c.maximum = timingMaxVts - 480 →
        (f c).val = v ∧ (f c).cur = v ∧ (f c).minimum = timingMinVts ∧
          (f c).maximum = timingMaxVts - 480) :
    Blanked v ((ctrlField i).update f d) := by
  obtain ⟨hval, hcur, hmin, hmax⟩ := hd
  cases i with
  | vblank =>
      obtain ⟨h1, h2, h3, h4⟩ := hf rfl d.vblank hval hcur hmin hmax
      exact ⟨h1, h2, h3, h4⟩
  | hflip | vflip | exposure | analogueGain | testPattern =>
      exact ⟨hval, hcur, hmin, hmax⟩

variable (hlo : timingMinVts ≤ v) (hhi : v ≤ timingMaxVts - 480)
include hlo hhi

theorem blanked_admits :
    AdmitsPower (Frame.invariant (Blanked v)) fun _ => True := by
  apply admitsPower_of_controls
  · intro d d' h hd
    have hvb : d'.vblank = d.vblank := h .vblank
    exact ⟨hvb ▸ hd.val, hvb ▸ hd.cur, hvb ▸ hd.minimum, hvb ▸ hd.maximum⟩
  · intro d i hd
    apply hd.update
    intro _ c hval hcur hmin hmax
    refine ⟨?_, hcur, hmin, hmax⟩
    simp only [Ctrl.validateNew, hval, hmin, hmax]
    exact FixedWidth.clamp_of_mem hlo hhi
  · intro d i hd
    exact hd.update i fun _ c hval hcur hmin hmax => ⟨hval, hval, hmin, hmax⟩
  · intro d i hd
    exact hd.update i fun _ c hval hcur hmin hmax => ⟨hcur, hcur, hmin, hmax⟩
  · intro d i w hi hd
    exact hd.update i fun h => absurd h hi
  · intro d lo hi st dflt _ hd
    exact ⟨hd.val, hd.cur, hd.minimum, hd.maximum⟩

section Parameters

variable (par : Params) (nearest : ℕ → ℕ → Fin 3)

theorem setFormat_blanked (w h : ℕ) :
    Stays (Frame.invariant (Blanked v))
      (setFormat par nearest .active w h) := by
  apply setFormat_stays (blanked_admits hlo hhi).toAdmits (fun _ _ => trivial)
  · exact fun d n hd => ⟨hd.val, hd.cur, hd.minimum, hd.maximum⟩
  · exact fun d p hd => ⟨hd.val, hd.cur, hd.minimum, hd.maximum⟩
  · exact fun d hd => ⟨hd.cur, hd.cur, rfl, rfl⟩

/-- Only a write of the vertical blanking changes it. -/
theorem sysStep_blanked {d : Device} (hd : Blanked v d)
    {x : List Bool × SysCall} (hx : x.2.SparesBlanking) :
    Blanked v (sysStep par nearest d x) := by
  have hF := blanked_admits hlo hhi
  obtain ⟨os, c⟩ := x
  have hd' : Blanked v (d.facing os) := ⟨hd.val, hd.cur, hd.minimum, hd.maximum⟩
  cases c with
  | call c =>
      cases c with
      | setFormat w h =>
          exact (setFormat_blanked hlo hhi par nearest w h).outcome hd'
      | setFrameInterval t =>
          refine (setFrameInterval_stays hF.toAdmits (fun _ _ => trivial) par
            ?_ t).outcome hd'
          exact fun d n hd => ⟨hd.val, hd.cur, hd.minimum, hd.maximum⟩
      | write i w =>
          have hi : i ≠ .vblank := hx
          exact (writeControl_stays hF.toAdmits (fun _ _ => trivial) par w
            fun w d => hF.setVal d i w hi).outcome hd'
  | stream hasLed enable =>
      exact (sStream_stays hF par hasLed enable).outcome hd'
  | autosuspend lost =>
      refine (autosuspend_stays hF.pm hF.power ?_ lost).outcome hd'
      exact fun d regs hd => ⟨hd.val, hd.cur, hd.minimum, hd.maximum⟩

theorem run_blanked {d : Device} (hd : Blanked v d)
    {calls : List (List Bool × SysCall)}
    (hcalls : ∀ x ∈ calls, x.2.SparesBlanking) :
    Blanked v (run (sysStep par nearest) d calls) := by
  apply run_invariant (I := Blanked v) ?_ hd (along_of_forall hcalls d)
  intro d x hd hx
  exact sysStep_blanked hlo hhi par nearest hd hx

end Parameters

omit hlo hhi in
/-- What probe leaves: the blanking of the first mode. -/
theorem probe_blanked (par : Params) (nearest : ℕ → ℕ → Fin 3)
    (board : Board) :
    Blanked ((firstMode par).vts - 480) (probe par nearest board) := by
  obtain ⟨hvlo, hvhi⟩ := vts_bounds par initialMode
  rw [modeInfoData_zero] at hvlo hvhi
  have hlo : timingMinVts ≤ ((firstMode par).vts : ℤ) - 480 := by
    simp only [timingMinVts]
    omega
  have hhi : ((firstMode par).vts : ℤ) - 480 ≤ timingMaxVts - 480 := by
    simp only [timingMaxVts]
    omega
  have hinit : Stays (Frame.invariant (Blanked ((firstMode par).vts - 480)))
      (initState par nearest) := by
    apply Keeps.tryCatch (S := fun _ => True)
    · exact (setFormat_blanked hlo hhi par nearest 640 480).bind
        fun _ => Keeps.pure ()
    · exact fun _ _ => Keeps.pure ()
  apply hinit.outcome
  refine ⟨?_, ?_, rfl, ?_⟩
  · rw [initCtrls, modeInfoData_height]
    rfl
  · rw [initCtrls, modeInfoData_height]
    rfl
  · rw [initCtrls, modeInfoData_height]
    rfl

/-! ## Starting the stream -/

/-- The sensor is held, and the blanking has the value `v`. -/
def Tuned (v : ℤ) (d : Device) : Prop := Blanked v d ∧ d.pm.InUse

omit hlo hhi in
theorem tuned_of_stays {α : Type} {p : Prog Device Fault α}
    (hp : Stays ((Frame.invariant (Blanked v)).and (beside [])) p) :
    Triple (Tuned v) p (fun _ => Tuned v) (fun _ _ => True) := by
  refine (hp.triple ?_).consequence (fun _ h => h) (fun _ _ h => h)
    fun _ _ _ => trivial
  rintro d d' ⟨hblanked, hbeside⟩ ⟨hd, huse⟩
  refine ⟨hblanked hd, ?_⟩
  rw [hbeside.pm]
  exact huse

theorem tuned_admits :
    Admits ((Frame.invariant (Blanked v)).and (beside [])) fun _ => True :=
  (blanked_admits hlo hhi).toAdmits.and
    ((beside_admits []).mono fun _ _ => List.not_mem_nil)

section Parameters

variable (par : Params)

/-- Writing the blanking to a held sensor stores the frame length. -/
theorem applyVblank_vts :
    Triple (Tuned v) (applyCtrl par .vblank)
      (fun _ d => vtsRegister d = (480 + v).toNat) (fun _ _ => True) := by
  rintro d ⟨hd, huse⟩
  have hget := pmRuntimeGetIfInUse_of_inUse pmField huse
  have hval : ((ctrlField .vblank).get (pmField.update RuntimePm.get d)).val =
      v := hd.val
  simp only [timingMinVts] at hlo
  simp only [timingMaxVts] at hhi
  have hnat : (BitVec.ofInt 32 (480 + v)).toNat = (480 + v).toNat := by
    rw [BitVec.toNat_ofInt]
    omega
  unfold applyCtrl
  rw [Prog.bind_ok hget, if_pos rfl, Prog.bind_ok (Prog.gets_apply _ _), hval]
  simp only [writeCtrl, vtsConfigure, Prog.tryFinally]
  rw [Prog.bind_ok (Prog.gets_apply _ _), Device.height_eq]
  unfold writeSeqRegs busWrite
  rw [if_neg (by simp), Prog.bind_apply]
  rcases transfer busField (pmField.update RuntimePm.get d) with ⟨_ | _, d'⟩
  · trivial
  · have hbytes := FixedWidth.lowBytes_toNat
      (x := BitVec.ofInt 32 (480 + v)) (by omega)
    rw [hnat] at hbytes
    exact hbytes

/-- Once the controls are set up, the registers hold the frame length of the
blanking. -/
theorem handlerSetup_vts :
    Triple (Tuned v) (handlerSetup par)
      (fun _ d => vtsRegister d = (480 + v).toNat) (fun _ _ => True) := by
  have hF := tuned_admits hlo hhi
  have hsetup : ∀ i, Triple (Tuned v)
      (Prog.modify ((ctrlField i).update Ctrl.curToNew) >>=
        fun _ => sCtrl par i) (fun _ => Tuned v) (fun _ _ => True) := by
    intro i
    apply tuned_of_stays
    exact (Keeps.modify fun d => hF.curToNew d i).bind
      fun _ => sCtrl_stays hF (fun _ _ => trivial) par i
  -- The vertical blanking is the last control that is set up.
  refine Triple.bind (hsetup .hflip) fun _ => ?_
  refine Triple.bind (hsetup .vflip) fun _ => ?_
  refine Triple.bind (hsetup .exposure) fun _ => ?_
  refine Triple.bind (hsetup .analogueGain) fun _ => ?_
  refine Triple.bind (hsetup .testPattern) fun _ => ?_
  refine Triple.bind ?_ fun _ => Triple.pure fun _ h => h
  refine Triple.bind (Q := fun _ => Tuned v) ?_ fun _ => ?_
  · exact tuned_of_stays (Keeps.modify fun d => hF.curToNew d .vblank)
  refine Triple.bind (Q := fun _ => Tuned v) ?_ fun _ =>
    applyVblank_vts hlo hhi par
  apply tuned_of_stays
  exact Keeps.when (adjustExposureRange_stays hF (fun _ _ => trivial) par)

omit hlo hhi in
/-- A device that was resumed is in use. -/
theorem resumeAndGet_inUse :
    Triple (fun _ => True) (pmRuntimeResumeAndGet pmField setPowerOn)
      (fun _ d => d.pm.InUse) (fun _ _ => True) := by
  have hpm : Stays (Frame.fixing pmField.get) setPowerOn :=
    setPowerOn_stays pm_admits.toAdmitsBus (fun _ _ => rfl) fun _ _ => trivial
  intro d _
  apply (pmRuntimeResumeAndGet_usage hpm d.pm.usage).consequence
    (P := fun d' => d'.pm.usage = d.pm.usage) (fun _ hs => hs)
    (fun _ d' hd' => ?_) (fun _ _ _ => trivial) d rfl
  obtain ⟨hactive, husage⟩ := hd'
  have husage : d'.pm.usage = d.pm.usage + 1 := husage
  refine ⟨hactive, ?_⟩
  omega

/-- A start that succeeds leaves the frame length of the blanking in the
registers. -/
theorem sStream_vts (hasLed : Bool) :
    Triple (Blanked v) (sStream par hasLed true)
      (fun _ d => vtsRegister d = (480 + v).toNat) (fun _ _ => True) := by
  have hF := tuned_admits hlo hhi
  have hkeep : ∀ {p : Prog Device Fault Unit},
      Stays (beside [0x380e, 0x380f]) p →
        Triple (fun d => vtsRegister d = (480 + v).toNat) p
          (fun _ d => vtsRegister d = (480 + v).toNat) (fun _ _ => True) := by
    intro p hp
    refine (hp.triple ?_).consequence (fun _ h => h) (fun _ _ h => h)
      fun _ _ _ => trivial
    intro d d' h hd
    rw [vtsRegister, h.regs _ (by decide), h.regs _ (by decide)]
    exact hd
  have hvts := (beside_admits [0x380e, 0x380f]).toAdmitsBus
  refine Triple.bind (Q := fun _ => Tuned v) ?_ fun _ => ?_
  · have hB := blanked_admits hlo hhi
    have hblanked := (resumeAndGet_stays hB.toAdmitsBus hB.power hB.pm).triple
      (P := Blanked v) fun _ _ h => h
    refine (hblanked.and resumeAndGet_inUse).consequence
      (fun _ h => ⟨h, trivial⟩) (fun _ _ h => h) fun _ _ _ => trivial
  apply Triple.tryCatch (J := fun _ _ => True)
  · refine Triple.bind (tuned_of_stays
      (pllConfigure_stays hF.toAdmitsBus par fun _ _ => trivial)) fun _ => ?_
    refine Triple.bind (tuned_of_stays (Keeps.gets _)) fun mode => ?_
    refine Triple.bind (tuned_of_stays
      (setRegisterArray_stays hF.toAdmitsBus fun _ _ => trivial)) fun _ => ?_
    refine Triple.bind (handlerSetup_vts hlo hhi par) fun _ => ?_
    refine Triple.bind (hkeep (writeReg_stays hvts (by decide) _)) fun _ => ?_
    exact hkeep (irLedSet_stays hvts (by decide) (by decide) _ _)
  · intro e
    exact Triple.bind (Triple.any _) fun _ => Triple.raise fun _ _ => trivial

end Parameters

omit hlo hhi

/-- The reported frame interval is the one of the current mode, and the
registers hold the frame length of that mode. -/
def StreamsAsReported (par : Params) (d : Device) : Prop :=
  (getFrameInterval par .active d).1 =
      .ok (modeInfoData par d.currentMode).timeperframe ∧
    vtsRegister d = (modeInfoData par d.currentMode).vts

section Runs

variable (par : Params) (nearest : ℕ → ℕ → Fin 3)

/-- A start that succeeds, after any calls that leave the blanking, streams
with the frame length of the first mode. -/
theorem vtsRegister_streaming (board : Board)
    {calls : List (List Bool × SysCall)}
    (hcalls : ∀ x ∈ calls, x.2.SparesBlanking) {os : List Bool} {hasLed : Bool}
    (hok : (sStream par hasLed true
      ((run (sysStep par nearest) (probe par nearest board) calls).facing
        os)).1 = .ok ()) :
    vtsRegister (sysStep par nearest
      (run (sysStep par nearest) (probe par nearest board) calls)
        (os, .stream hasLed true)) = (firstMode par).vts := by
  obtain ⟨hvlo, hvhi⟩ := vts_bounds par initialMode
  rw [modeInfoData_zero] at hvlo hvhi
  have hlo : timingMinVts ≤ ((firstMode par).vts : ℤ) - 480 := by
    simp only [timingMinVts]
    omega
  have hhi : ((firstMode par).vts : ℤ) - 480 ≤ timingMaxVts - 480 := by
    simp only [timingMaxVts]
    omega
  have hrun := run_blanked hlo hhi par nearest (probe_blanked par nearest board)
    hcalls
  have hvts := sStream_vts hlo hhi par hasLed
    ((run (sysStep par nearest) (probe par nearest board) calls).facing os)
    ⟨hrun.val, hrun.cur, hrun.minimum, hrun.maximum⟩
  rw [sysStep_stream]
  revert hok hvts
  rcases sStream par hasLed true
      ((run (sysStep par nearest) (probe par nearest board) calls).facing os)
    with ⟨_ | _, d'⟩
  · intro hok
    cases hok
  · intro _ hvts
    have hvts : vtsRegister d' = (480 + ((firstMode par).vts - 480 : ℤ)).toNat :=
      hvts
    change vtsRegister d' = (firstMode par).vts
    omega

theorem currentMode_streaming (d : Device) (os : List Bool) (hasLed : Bool) :
    (sysStep par nearest d (os, .stream hasLed true)).currentMode =
      d.currentMode := by
  have h := sStream_stays currentMode_admits par hasLed true (d.facing os)
    (d.facing os) rfl
  rw [sysStep_stream]
  revert h
  rcases sStream par hasLed true (d.facing os) with ⟨_ | _, d'⟩
  · exact fun h => h.1
  · exact fun h => h

/-- A sensor whose blanking nobody wrote streams at the frame interval it
reports exactly if the current mode has the frame length of the first one. -/
theorem streamsAsReported_iff (board : Board)
    (calls : List (List Bool × SysCall))
    (hcalls : ∀ x ∈ calls, x.2.SparesBlanking) (os : List Bool) (hasLed : Bool)
    (hok : (sStream par hasLed true
      ((run (sysStep par nearest) (probe par nearest board) calls).facing
        os)).1 = .ok ()) :
    StreamsAsReported par (sysStep par nearest
        (run (sysStep par nearest) (probe par nearest board) calls)
          (os, .stream hasLed true)) ↔
      (modeInfoData par (run (sysStep par nearest) (probe par nearest board)
        calls).currentMode).vts = (firstMode par).vts := by
  have hvts := vtsRegister_streaming par nearest board hcalls hok
  rw [StreamsAsReported, hvts, currentMode_streaming]
  constructor
  · exact fun h => h.2.symm
  · intro h
    refine ⟨?_, h.symm⟩
    rw [← currentMode_streaming par nearest _ os hasLed]
    rfl

end Runs

/-- A request for so many frames a second. -/
def framesPerSecond (rate : ℕ) : List Bool × SysCall :=
  ([], .call (.setFrameInterval ⟨1, rate⟩))

theorem framesPerSecond_spares (rates : List ℕ) :
    ∀ x ∈ rates.map framesPerSecond, x.2.SparesBlanking := by
  intro x hx
  obtain ⟨rate, -, rfl⟩ := List.mem_map.mp hx
  exact trivial

/-- A sensor that is taken to 60 frames a second and back streams the 30 that it
reports. -/
theorem streamsAsReported_back :
    StreamsAsReported stockParams (sysStep stockParams (fun _ _ => initialMode)
      (run (sysStep stockParams fun _ _ => initialMode)
        (probe stockParams (fun _ _ => initialMode) plainBoard)
          ([60, 30].map framesPerSecond))
      ([], .stream false true)) :=
  (streamsAsReported_iff stockParams (fun _ _ => initialMode) plainBoard
    ([60, 30].map framesPerSecond) (framesPerSecond_spares _) [] false
      (by decide +kernel)).mpr (by decide +kernel)

/-- After a request for 60 frames a second the sensor reports them and streams
30. -/
theorem streamsAsReported_fails :
    ¬ ∀ (par : Params) (nearest : ℕ → ℕ → Fin 3) (board : Board)
        (calls : List (List Bool × SysCall)),
        (∀ x ∈ calls, x.2.SparesBlanking) → ∀ (os : List Bool) (hasLed : Bool),
        (sStream par hasLed true
          ((run (sysStep par nearest) (probe par nearest board) calls).facing
            os)).1 = .ok () →
        StreamsAsReported par (sysStep par nearest
          (run (sysStep par nearest) (probe par nearest board) calls)
            (os, .stream hasLed true)) := by
  intro h
  have hspare := framesPerSecond_spares [60]
  have hok : (sStream stockParams false true
      ((run (sysStep stockParams fun _ _ => initialMode)
        (probe stockParams (fun _ _ => initialMode) plainBoard)
          ([60].map framesPerSecond)).facing [])).1 = .ok () := by
    decide +kernel
  have hmode : (run (sysStep stockParams fun _ _ => initialMode)
      (probe stockParams (fun _ _ => initialMode) plainBoard)
        ([60].map framesPerSecond)).currentMode = 1 := by
    decide +kernel
  have hvts := (h _ _ plainBoard _ hspare [] false hok).2
  rw [currentMode_streaming, hmode,
    vtsRegister_streaming _ _ _ hspare hok] at hvts
  exact absurd hvts (by decide)

end Ov7251
end SurfaceCameras
