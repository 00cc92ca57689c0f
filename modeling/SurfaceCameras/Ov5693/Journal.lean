import SurfaceCameras.Kernel.Histories
import SurfaceCameras.Ov5693.Streaming

/-!
# Control writes of the OV5693 driver beside a journal

Setting the vertical blanking may write the exposure on the way, and what the
registers held in between is not to be seen in the system it leaves.  So control
writes are also run beside a journal of what was brought to the sensor, each
entry with the system as it is right after it.
-/

namespace SurfaceCameras
namespace Ov5693

open Kernel Device Prog Runs

/-- The controls brought to the sensor so far, the last one first, each with
the system right after it. -/
abbrev Journal : Type := List (CtrlId × System)

/-- A program of the driver beside its journal. -/
abbrev JournalM (α : Type) : Type := Prog (System × Journal) Fault α

/-! ## Recording -/

/-- `applyCtrl` beside the journal: a value that reached the sensor is noted. -/
def recordApply (id : CtrlId) : JournalM Unit := do
  let inUse ← Prog.beside (pmRuntimeGetIfInUse pmField.ofDev)
  if inUse then do
    let ctrl ← Prog.gets fun s => (ctrlField id).get s.1.dev
    Prog.tryFinally (fun _ => false)
      (do
        Prog.beside (writeCtrl id ctrl.val)
        record fun s g => (id, s) :: g)
      (Prog.beside (pmRuntimePut pmField.ofDev))
  else
    pure ()

/-- `limitExposure` beside the journal. -/
def recordLimit (exposureMax : ℤ) : JournalM Unit := do
  let exposure ← Prog.gets fun s => s.1.dev.exposure
  Prog.tryCatch
    (v4l2CtrlModifyRange exposureField.ofDev.aside (recordApply .exposure)
      exposure.minimum exposureMax exposure.step
      (min exposure.val exposureMax))
    fun e =>
      match e with
      | .errno _ => pure ()
      | .divideError => Prog.raise .divideError

/-- The first half of `ov5693_s_ctrl` for the vertical blanking, beside the
journal. -/
def recordAdjust : JournalM Unit := do
  let exposureMax ← Prog.gets fun s =>
    (s.1.dev.mode.format.height : ℤ) + s.1.dev.vblank.val -
      integrationTimeMargin
  recordLimit exposureMax

/-- `ov5693_s_ctrl` beside the journal. -/
def recordSCtrl (id : CtrlId) : JournalM Unit := do
  Prog.when (id = .vblank) recordAdjust
  recordApply id

/-- A control write from user space beside the journal. -/
def recordControl (id : CtrlId) (v : ℤ) : JournalM Unit :=
  if id = .hblank then
    Prog.raise (.errno .eacces)
  else
    v4l2SCtrl (ctrlField id).ofDev.aside (recordSCtrl id) (ctrlType id) v

/-- A control write beside the journal, whatever it returns. -/
def recordWrite (s : System × Journal) (w : CtrlId × ℤ) : System × Journal :=
  (recordControl w.1 w.2 s).2

/-! ## Erasure -/

theorem recordApply_erases (i : CtrlId) :
    Erases (recordApply i) (applyCtrl i) := by
  apply Erases.bind (Erases.beside _)
  intro inUse
  apply Erases.ite
  · apply Erases.bind (Erases.gets fun s : System => (ctrlField i).get s.dev)
    intro ctrl
    exact Erases.tryFinally (Erases.bind_record (Erases.beside _))
      (Erases.beside _)
  · exact Erases.pure ()

theorem recordLimit_erases (exposureMax : ℤ) :
    Erases (recordLimit exposureMax) (limitExposure exposureMax) := by
  apply Erases.bind (Erases.gets fun s : System => s.dev.exposure)
  intro exposure
  apply Erases.tryCatch
  · exact v4l2CtrlModifyRange_erases exposureField.ofDev
      (recordApply_erases .exposure) _ _ _ _
  · intro e
    cases e with
    | errno => exact Erases.pure ()
    | divideError => exact Erases.raise _

theorem recordSCtrl_erases (i : CtrlId) :
    Erases (recordSCtrl i) (sCtrl i) := by
  apply Erases.bind
  · apply Erases.when
    apply Erases.bind (Erases.gets fun s : System =>
      (s.dev.mode.format.height : ℤ) + s.dev.vblank.val -
        integrationTimeMargin)
    exact fun exposureMax => recordLimit_erases exposureMax
  · exact fun _ => recordApply_erases i

theorem recordControl_erases (i : CtrlId) (v : ℤ) :
    Erases (recordControl i v) (writeControl i v) := by
  apply Erases.ite
  · exact Erases.raise _
  · exact v4l2SCtrl_erases (ctrlField i).ofDev (recordSCtrl_erases i)
      (ctrlType i) v

theorem run_recordWrite_fst (binnedYOffset : ℤ) (s : System × Journal)
    (ws : List (CtrlId × ℤ)) :
    (run recordWrite s ws).1 =
      run (fun t w => step binnedYOffset t (.write w.1 w.2)) s.1 ws :=
  run_map (fun t w => (recordControl_erases w.1 w.2).outcome t) s ws

end Ov5693
end SurfaceCameras
