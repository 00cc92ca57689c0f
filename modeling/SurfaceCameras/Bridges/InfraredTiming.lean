import SurfaceCameras.Ov7251.ControlRanges
import SurfaceCameras.Support.Runs
import Mathlib.Data.Rat.Floor

/-!
# What the infrared bridge reads off its sensor driver

`surface-ir-bridge` asks the driver once, when it starts, how long a frame and
an exposure can be, and derives from that the blanking and the exposure ceiling
of every attempt to start a capture.  The maximum of the exposure control
follows the blanking in effect, while the blanking the bridge reads is the
default: the two belong together only if the driver was left that way.
-/

namespace SurfaceCameras
namespace Bridges
namespace Infrared

open Kernel Ov7251 Runs

/-- `IR_W` and `IR_H`. -/
def irWidth : ℕ := 640
def irHeight : ℕ := 480

def wedgeRetries : ℕ := 8
def fallbackRetries : ℕ := 3

/-- The blanking of the 30 fps mode without boost. -/
def vblankStock : ℤ := 1244

/-- A line that `v4l2-ctl --list-ctrls` prints for an integer control. -/
structure CtrlLine where
  minimum : ℤ
  maximum : ℤ
  defaultValue : ℤ
  value : ℤ

/-- The lines the bridge looks for. -/
structure Listing where
  exposure : Option CtrlLine
  verticalBlanking : Option CtrlLine
  horizontalBlanking : Option CtrlLine
  pixelRate : Option CtrlLine

/-- The globals that `query_sensor_timing` sets: `EXPOSURE_MIN`,
`EXPOSURE_MAX`, `VBLANK_DEF` and `NOMINAL_FRAME_DT`. -/
structure SensorTiming where
  exposureMin : ℤ
  exposureMax : ℤ
  vblankDef : ℤ
  nominalFrameDt : ℚ

/-- Their values before the query. -/
def SensorTiming.fallback : SensorTiming := ⟨2, 1704, 1244, 1 / 30⟩

/-- The default blanking and the frame period that follows from it. -/
def frameTiming (l : Listing) : ℤ × ℚ :=
  match l.verticalBlanking, l.horizontalBlanking with
  | some v, some h =>
      let pclk := (l.pixelRate.map CtrlLine.defaultValue).getD 48000000
      (v.defaultValue,
        (irHeight + v.defaultValue : ℤ) * (irWidth + h.defaultValue : ℤ) / pclk)
  | _, _ => (SensorTiming.fallback.vblankDef, SensorTiming.fallback.nominalFrameDt)

/-- `query_sensor_timing`. -/
def querySensorTiming (l : Listing) : SensorTiming :=
  let fallback := SensorTiming.fallback
  { exposureMin := (l.exposure.map CtrlLine.minimum).getD fallback.exposureMin
    exposureMax := (l.exposure.map CtrlLine.maximum).getD fallback.exposureMax
    vblankDef := (frameTiming l).1
    nominalFrameDt := (frameTiming l).2 }

/-- The blanking and the exposure ceiling of each attempt of
`start_capture`. -/
def attempts (t : SensorTiming) : List (ℤ × ℤ) :=
  List.replicate wedgeRetries (t.vblankDef, t.exposureMax) ++
    if vblankStock < t.vblankDef then
      List.replicate fallbackRetries
        (vblankStock,
          max (t.exposureMax - (t.vblankDef - vblankStock)) (t.exposureMin + 1))
    else
      []

/-! ## The driver between two bridge processes -/

/-- The line of a control. -/
def ctrlLine (c : Ctrl) : CtrlLine :=
  ⟨c.minimum, c.maximum, c.defaultValue, c.cur⟩

/-- What the driver lists; the pixel rate is a read-only control. -/
def listCtrls (d : Device) : Listing :=
  let rate : ℤ := pixelRates.getD d.linkFreqIdx 0
  { exposure := some (ctrlLine d.exposure)
    verticalBlanking := some (ctrlLine d.vblank)
    horizontalBlanking := some (ctrlLine d.hblank)
    pixelRate := some ⟨rate, 2 ^ 31 - 1, rate, rate⟩ }

/-- What bridge sessions and the kernel do to the driver: `media-ctl` sets the
format, `v4l2-ctl` sets controls, the capture starts and stops the stream, and
the idle sensor is suspended. -/
inductive DriverCall where
  | setupGraph
  | setVblank (vblank : ℤ)
  | setCtrls (exposure gain : ℤ)
  | stream (hasLed enable : Bool)
  | autosuspend (lost : ℕ → BitVec 8)

section Driver

variable (par : Params) (nearest : ℕ → ℕ → Fin 3)

/-- The driver after a call, whatever the call returns. -/
def driverStep (d : Device) : DriverCall → Device
  | .setupGraph => (setFormat par nearest .active irWidth irHeight d).2
  | .setVblank v => (writeControl par .vblank v d).2
  | .setCtrls exposure gain =>
      ((writeControl par .exposure exposure >>= fun _ =>
        writeControl par .analogueGain gain) d).2
  | .stream hasLed enable => (sStream par hasLed enable d).2
  | .autosuspend lost => (autosuspend lost d).2

/-- The driver that a bridge process finds. -/
def leftBy (board : Board) (calls : List DriverCall) : Device :=
  run (driverStep par nearest) (probe par nearest board) calls

/-- The exposure ceiling of an attempt is the one the driver computes for its
blanking. -/
def CeilingAgrees (attempt : ℤ × ℤ) : Prop :=
  attempt.2 = irHeight + attempt.1 - boostIntegrationMargin

variable {par nearest}

theorem driverStep_ranged (hnear : nearest 640 480 = 0) {d : Device}
    (hd : Ranged ((firstMode par).vts - 480) d) (c : DriverCall) :
    Ranged ((firstMode par).vts - 480) (driverStep par nearest d c) := by
  cases c with
  | setupGraph =>
      apply (setFormat_ranged par ?_).outcome hd
      simp only [irWidth, irHeight, hnear, modeInfoData_zero]
  | setVblank v => exact (writeControl_ranged par .vblank v).outcome hd
  | setCtrls exposure gain =>
      refine Stays.outcome ?_ hd
      exact (writeControl_ranged par .exposure exposure).bind fun _ =>
        writeControl_ranged par .analogueGain gain
  | stream hasLed enable =>
      exact (sStream_stays ranged_admits par hasLed enable).outcome hd
  | autosuspend lost => exact (autosuspend_ranged lost).outcome hd

/-- Whatever sessions did, the exposure starts at one line and the blanking has
the default of the first mode. -/
theorem leftBy_ranged (hnear : nearest 640 480 = 0) (board : Board)
    (calls : List DriverCall) :
    Ranged ((firstMode par).vts - 480) (leftBy par nearest board calls) := by
  unfold leftBy
  refine run_induction (fun d c hd => ?_) (probe_ranged par hnear board) calls
  exact driverStep_ranged hnear hd c

/-- Attempts from a timing whose exposure starts at one line have the driver's
ceilings exactly if the first one does: the fallback moves both by the same
amount. -/
theorem attempts_agree_iff {t : SensorTiming} (hmin : t.exposureMin = 1) :
    (∀ a ∈ attempts t, CeilingAgrees a) ↔
      CeilingAgrees (t.vblankDef, t.exposureMax) := by
  constructor
  · intro h
    exact h _ (List.mem_append_left _ (List.mem_replicate.mpr ⟨by decide, rfl⟩))
  · intro h a ha
    rcases List.mem_append.mp ha with ha | ha
    · rw [(List.mem_replicate.mp ha).2]
      exact h
    · split at ha
      · next hlt =>
          rw [(List.mem_replicate.mp ha).2]
          simp only [CeilingAgrees, irHeight, vblankStock,
            boostIntegrationMargin] at h hlt ⊢
          omega
      · cases ha

theorem listed_agree_iff {d : Device} (hmin : d.exposure.minimum = 1) :
    (∀ a ∈ attempts (querySensorTiming (listCtrls d)), CeilingAgrees a) ↔
      CeilingAgrees (d.vblank.defaultValue, d.exposure.maximum) :=
  attempts_agree_iff hmin

end Driver

end Infrared
end Bridges
end SurfaceCameras
