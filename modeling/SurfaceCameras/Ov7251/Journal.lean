import SurfaceCameras.Kernel.Histories
import SurfaceCameras.Ov7251.System

/-!
# The OV7251 driver beside a journal of its control writes

The exposure can reach the sensor several times within one call, and only the
last time is to be seen in the registers that the call leaves.  So the driver is
run beside a journal of the control values it brings to the sensor, each with
the device as it is right after the write.  The journal is never read, and
erasing it gives the driver back.
-/

namespace SurfaceCameras
namespace Ov7251

open Kernel Device Prog Runs

/-- The controls brought to the sensor so far, the last one first, each with
the device right after it. -/
abbrev Journal : Type := List (CtrlId × Device)

/-- A program of the driver beside its journal. -/
abbrev JournalM (α : Type) : Type := Prog (Device × Journal) Fault α

section Parameters

variable (par : Params) (nearest : ℕ → ℕ → Fin 3)

/-! ## Recording -/

/-- `applyCtrl` beside the journal: a value that reached the sensor is noted. -/
def recordApply (id : CtrlId) : JournalM Unit := do
  let inUse ← Prog.beside (pmRuntimeGetIfInUse pmField)
  if inUse then do
    let ctrl ← Prog.gets fun s => (ctrlField id).get s.1
    Prog.tryFinally (fun _ => false)
      (do
        Prog.beside (writeCtrl par id ctrl.val)
        record fun d g => (id, d) :: g)
      (Prog.beside (pmRuntimePut pmField))
  else
    pure ()

/-- `adjustExposureRange` beside the journal. -/
def recordAdjust : JournalM Unit := do
  let height ← Prog.gets fun s => s.1.height par
  let vblank ← Prog.gets fun s => s.1.vblank
  let exposure ← Prog.gets fun s => s.1.exposure
  let exposureMax := height + vblank.val - exposureMargin par
  Prog.tryCatch
    (v4l2CtrlModifyRange exposureField.aside (recordApply par .exposure)
      exposure.minimum exposureMax exposure.step
      (min exposure.val exposureMax))
    (fun _ => pure ())

/-- `ov7251_s_ctrl` beside the journal. -/
def recordSCtrl (id : CtrlId) : JournalM Unit := do
  Prog.when (id = .vblank) (recordAdjust par)
  recordApply par id

/-- A control write from user space beside the journal. -/
def recordControl (id : CtrlId) (v : ℤ) : JournalM Unit :=
  v4l2SCtrl (ctrlField id).aside (recordSCtrl par id) (ctrlType id) v

/-- `resetExposure` beside the journal. -/
def recordReset (mode : ModeInfo) : JournalM Unit := do
  v4l2CtrlModifyRange exposureField.aside (recordSCtrl par .exposure) 1
    mode.exposureMax 1 mode.exposureDef
  v4l2CtrlSCtrl exposureField.aside (recordSCtrl par .exposure)
    mode.exposureDef
  v4l2CtrlSCtrl gainField.aside (recordSCtrl par .analogueGain) 16

/-- `setActiveMode` beside the journal. -/
def recordMode (n : Fin 3) : JournalM Unit := do
  let mode := modeInfoData par n
  recordReset par mode
  v4l2CtrlModifyRange vblankField.aside (recordSCtrl par .vblank) timingMinVts
    (timingMaxVts - mode.height) 1 (mode.vts - mode.height)
  Prog.beside (Prog.modify fun d => { d with currentMode := n })

/-- `ov7251_set_format` of the active format beside the journal. -/
def recordFormat (width height : ℕ) : JournalM MbusFramefmt := do
  let n := nearest width height
  let mode := modeInfoData par n
  Prog.beside (Prog.modify ((padState .active).update fun p =>
    { p with
      crop := { p.crop with width := mode.width, height := mode.height } }))
  recordMode par n
  Prog.beside (Prog.modify ((padState .active).update fun p =>
    { p with format := MbusFramefmt.y10 p.crop.width p.crop.height }))
  Prog.gets fun s => ((padState .active).get s.1).format

/-- `ov7251_set_frame_interval` of the active state beside the journal. -/
def recordInterval (interval : Fract) : JournalM Fract := do
  let current ← Prog.gets fun s => s.1.currentMode
  let n ← Prog.beside (findModeByIval par (modeInfoData par current) interval)
  Prog.when (n ≠ current) (do
    recordReset par (modeInfoData par n)
    Prog.beside (Prog.modify fun d => { d with currentMode := n }))
  Prog.gets fun s => (modeInfoData par s.1.currentMode).timeperframe

/-- `__v4l2_ctrl_handler_setup` beside the journal. -/
def recordSetup : JournalM Unit :=
  v4l2CtrlHandlerSetup
    (writableCtrls.map fun id => ((ctrlField id).aside, recordSCtrl par id))

/-- `ov7251_s_stream` beside the journal; stopping the stream brings no control
to the sensor. -/
def recordStream (hasLed enable : Bool) : JournalM Unit :=
  match enable with
  | true => do
      Prog.beside (pmRuntimeResumeAndGet pmField setPowerOn)
      Prog.tryCatch
        (do
          Prog.beside (pllConfigure par)
          let mode ← Prog.gets fun s => s.1.currentMode
          Prog.beside (setRegisterArray (modeInfoData par mode).data)
          recordSetup par
          Prog.beside (writeReg 0x0100 0x1)
          Prog.beside (irLedSet hasLed true))
        (fun e => Prog.beside (do
          pmRuntimePut pmField
          Prog.raise e))
  | false => Prog.beside (sStream par hasLed false)

/-- A call beside the journal, whatever it returns. -/
def recordStep (s : Device × Journal) :
    List Bool × SysCall → Device × Journal
  | (outcomes, .call (.setFormat w h)) =>
      (recordFormat par nearest w h (s.1.facing outcomes, s.2)).2
  | (outcomes, .call (.setFrameInterval t)) =>
      (recordInterval par t (s.1.facing outcomes, s.2)).2
  | (outcomes, .call (.write id v)) =>
      (recordControl par id v (s.1.facing outcomes, s.2)).2
  | (outcomes, .stream hasLed enable) =>
      (recordStream par hasLed enable (s.1.facing outcomes, s.2)).2
  | (outcomes, .autosuspend lost) =>
      (Prog.beside (autosuspend lost) (s.1.facing outcomes, s.2)).2

/-- The journal of a run from probe, which brings nothing to the sensor. -/
def journal (board : Board) (calls : List (List Bool × SysCall)) : Journal :=
  (run (recordStep par nearest) (probe par nearest board, []) calls).2

/-! ## Erasure -/

theorem recordApply_erases (i : CtrlId) :
    Erases (recordApply par i) (applyCtrl par i) := by
  apply Erases.bind (Erases.beside _)
  intro inUse
  apply Erases.ite
  · apply Erases.bind (Erases.gets _)
    intro ctrl
    exact Erases.tryFinally (Erases.bind_record (Erases.beside _))
      (Erases.beside _)
  · exact Erases.pure ()

theorem recordAdjust_erases :
    Erases (recordAdjust par) (adjustExposureRange par) := by
  apply Erases.bind (Erases.gets (Device.height par))
  intro height
  apply Erases.bind (Erases.gets vblankField.get)
  intro vblank
  apply Erases.bind (Erases.gets exposureField.get)
  intro exposure
  apply Erases.tryCatch
  · exact v4l2CtrlModifyRange_erases exposureField
      (recordApply_erases par .exposure) _ _ _ _
  · exact fun _ => Erases.pure ()

theorem recordSCtrl_erases (i : CtrlId) :
    Erases (recordSCtrl par i) (sCtrl par i) :=
  Erases.bind (Erases.when (recordAdjust_erases par)) fun _ =>
    recordApply_erases par i

theorem recordControl_erases (i : CtrlId) (v : ℤ) :
    Erases (recordControl par i v) (writeControl par i v) :=
  v4l2SCtrl_erases (ctrlField i) (recordSCtrl_erases par i) (ctrlType i) v

theorem recordReset_erases (mode : ModeInfo) :
    Erases (recordReset par mode) (resetExposure par mode) := by
  apply Erases.bind
  · exact v4l2CtrlModifyRange_erases exposureField
      (recordSCtrl_erases par .exposure) _ _ _ _
  intro _
  apply Erases.bind
  · exact v4l2CtrlSCtrl_erases exposureField (recordSCtrl_erases par .exposure) _
  intro _
  exact v4l2CtrlSCtrl_erases gainField (recordSCtrl_erases par .analogueGain) _

theorem recordMode_erases (n : Fin 3) :
    Erases (recordMode par n) (setActiveMode par n) := by
  apply Erases.bind (recordReset_erases par (modeInfoData par n))
  intro _
  apply Erases.bind
  · exact v4l2CtrlModifyRange_erases vblankField
      (recordSCtrl_erases par .vblank) _ _ _ _
  · exact fun _ => Erases.beside _

theorem recordFormat_erases (w h : ℕ) :
    Erases (recordFormat par nearest w h)
      (setFormat par nearest .active w h) := by
  apply Erases.bind (Erases.beside _)
  intro _
  apply Erases.bind (recordMode_erases par (nearest w h))
  intro _
  apply Erases.bind (Erases.beside _)
  exact fun _ => Erases.gets fun d => ((padState .active).get d).format

theorem recordInterval_erases (t : Fract) :
    Erases (recordInterval par t) (setFrameInterval par .active t) := by
  apply Erases.bind (Erases.gets Device.currentMode)
  intro current
  apply Erases.bind (Erases.beside _)
  intro n
  apply Erases.bind
  · exact Erases.when (Erases.bind (recordReset_erases par _) fun _ =>
      Erases.beside _)
  · exact fun _ =>
      Erases.gets fun d : Device =>
        (modeInfoData par d.currentMode).timeperframe

theorem recordSetup_erases : Erases (recordSetup par) (handlerSetup par) :=
  v4l2CtrlHandlerSetup_erases ctrlField (recordSCtrl_erases par) writableCtrls

theorem recordStream_erases (hasLed enable : Bool) :
    Erases (recordStream par hasLed enable) (sStream par hasLed enable) := by
  cases enable with
  | true =>
      apply Erases.bind (Erases.beside _)
      intro _
      apply Erases.tryCatch
      · apply Erases.bind (Erases.beside _)
        intro _
        apply Erases.bind (Erases.gets Device.currentMode)
        intro mode
        apply Erases.bind (Erases.beside _)
        intro _
        apply Erases.bind (recordSetup_erases par)
        intro _
        exact Erases.bind (Erases.beside _) fun _ => Erases.beside _
      · exact fun _ => Erases.beside _
  | false => exact Erases.beside _

theorem recordStep_fst (s : Device × Journal) (x : List Bool × SysCall) :
    (recordStep par nearest s x).1 = sysStep par nearest s.1 x := by
  obtain ⟨os, c⟩ := x
  cases c with
  | call c =>
      cases c with
      | setFormat w h => exact (recordFormat_erases par nearest w h).outcome _
      | setFrameInterval t => exact (recordInterval_erases par t).outcome _
      | write i v => exact (recordControl_erases par i v).outcome _
  | stream hasLed enable =>
      exact (recordStream_erases par hasLed enable).outcome _
  | autosuspend lost => rfl

theorem run_recordStep_fst (s : Device × Journal)
    (calls : List (List Bool × SysCall)) :
    (run (recordStep par nearest) s calls).1 =
      run (sysStep par nearest) s.1 calls :=
  run_map (recordStep_fst par nearest) s calls

end Parameters

end Ov7251
end SurfaceCameras
