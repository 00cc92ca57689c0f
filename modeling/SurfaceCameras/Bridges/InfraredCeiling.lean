import SurfaceCameras.Bridges.InfraredTiming
import SurfaceCameras.Ov7251.StreamControls
import SurfaceCameras.Ov7251.Usability

/-!
# The exposure ceiling that a bridge process finds

The bridge pairs the default of the vertical blanking with the maximum of the
exposure.  The driver brings that maximum to the blanking in effect when the
blanking changes and when the stream starts, and `media-ctl` brings it back to
the default, so what a bridge process finds is decided by the calls before it.
-/

namespace SurfaceCameras
namespace Bridges
namespace Infrared

open Kernel Ov7251 Runs

/-- What the calls so far asked for: the blanking in effect, and the one for
which the range of the exposure was last set. -/
structure Asked where
  vblank : ℤ
  rangeOf : ℤ
  deriving DecidableEq

/-- A call changes the blanking, or the range of the exposure, or neither. -/
def Asked.after (vblankDef : ℤ) (a : Asked) : DriverCall → Asked
  | .setupGraph => { a with rangeOf := vblankDef }
  | .setVblank v =>
      let vblank := FixedWidth.clamp v timingMinVts (timingMaxVts - irHeight)
      if vblank = a.vblank then a else ⟨vblank, vblank⟩
  | .stream _ true => { a with rangeOf := a.vblank }
  | .setCtrls _ _ | .stream _ false | .autosuspend _ => a

/-- What a list of calls asked for, from probe on. -/
def askedBy (vblankDef : ℤ) (calls : List DriverCall) : Asked :=
  run (Asked.after vblankDef) ⟨vblankDef, vblankDef⟩ calls

/-- The driver has the blanking that was asked for, and the ceiling of the one
that last set the range. -/
structure Follows (a : Asked) (d : Device) : Prop where
  regular : Regular d
  vblank : d.vblank.cur = a.vblank
  exposure : d.exposure.maximum = irHeight + a.rangeOf - boostIntegrationMargin

/-- The driver boosts the frame length of its first mode. -/
structure Boosted (par : Params) : Prop where
  low : 760 ≤ par.vtsBoost
  high : par.vtsBoost ≤ 65535
  noWindow : par.winTiming = 0

namespace Boosted

variable {par : Params} (hpar : Boosted par)

include hpar

theorem accepted : BoostAccepted par.vtsBoost := by
  have hlow := hpar.low
  have hhigh := hpar.high
  simp only [BoostAccepted, timingMaxVts]
  omega

theorem consistent : par.Consistent := by
  have hlow := hpar.low
  exact (consistent_iff par).mpr (Or.inr fun h => by omega)

theorem vts : ((firstMode par).vts : ℤ) = par.vtsBoost := by
  have hlow := hpar.low
  rw [firstMode, if_neg (not_not_intro hpar.noWindow), if_pos hpar.accepted]
  exact Int.toNat_of_nonneg (by omega)

theorem exposureMax :
    ((firstMode par).exposureMax : ℤ) =
      par.vtsBoost - boostIntegrationMargin := by
  have hlow := hpar.low
  have hhigh := hpar.high
  rw [firstMode, if_neg (not_not_intro hpar.noWindow), if_pos hpar.accepted]
  simp only [boostIntegrationMargin]
  omega

theorem margin : exposureMargin par = boostIntegrationMargin := by
  have hlow := hpar.low
  exact if_pos ⟨by omega, hpar.noWindow⟩

end Boosted

namespace Follows

variable {par : Params} {a : Asked} {d d' : Device}

theorem of_steady (hd : Follows a d) (h : Steady d.exposure d.vblank d') :
    Follows a d' where
  regular := hd.regular.of_steady h
  vblank := by rw [h.vblank, hd.vblank]
  exposure := by rw [h.exposure, hd.exposure]

theorem of_sensorOnly (hd : Follows a d) (h : SensorOnly d d') :
    Follows a d' :=
  hd.of_steady ⟨h.clean hd.regular.clean, h.exposure, h.vblank⟩

theorem ranged (hpar : Boosted par) (hd : Regular d) :
    Follows ⟨d.vblank.cur, d.vblank.cur⟩
      { d with exposure := followVblank par d.vblank.cur d.exposure } where
  regular := hd.follow par hd.le_vblank
  vblank := rfl
  exposure := by
    have hmax := followVblank_maximum par hd.exposure_settled
      hd.exposure_minimum hd.exposure_step hd.le_vblank
    rw [hpar.margin] at hmax
    exact hmax

theorem format (hpar : Boosted par) (hd : Regular d) :
    Follows ⟨d.vblank.cur, par.vtsBoost - irHeight⟩
      (formatStored (modeStored par 0 d)) where
  regular :=
    formatStored_regular (modeStored_regular par hpar.consistent 0 hd)
  vblank := rfl
  exposure := by
    have hmax : (formatStored (modeStored par 0 d)).exposure.maximum =
        (firstMode par).exposureMax := rfl
    rw [hmax, hpar.exposureMax]
    ring

end Follows

section Driver

variable {par : Params} {nearest : ℕ → ℕ → Fin 3} {a : Asked} {d : Device}

/-! ## The calls of a session -/

theorem setupGraph_follows (hpar : Boosted par) (hnear : nearest 640 480 = 0)
    (hd : Follows a d) :
    Follows (a.after (par.vtsBoost - irHeight) .setupGraph)
      (driverStep par nearest d .setupGraph) := by
  obtain ⟨d', hok, h'⟩ := setFormat_ok par nearest hpar.consistent irWidth
    irHeight hd.regular
  have hstep : driverStep par nearest d .setupGraph = d' := by
    simp only [driverStep, hok]
  have hmode : nearest irWidth irHeight = 0 := hnear
  rw [hmode] at h'
  rw [hstep, Asked.after, ← hd.vblank]
  exact (Follows.format hpar hd.regular).of_sensorOnly h'

theorem setVblank_follows (hpar : Boosted par) (hd : Follows a d) (v : ℤ)
    (vblankDef : ℤ) :
    Follows (a.after vblankDef (.setVblank v))
      (driverStep par nearest d (.setVblank v)) := by
  have hout := (writeVblank_does par v).outcome hd.regular.clean
  have hregular := vblankWritten_regular par v hd.regular
  refine Follows.of_sensorOnly ?_ hout
  have hcur : (d.vblank.applied v).cur =
      FixedWidth.clamp v timingMinVts (timingMaxVts - irHeight) := by
    simp only [Ctrl.applied, hd.regular.vblank_minimum,
      hd.regular.vblank_maximum]
    rfl
  simp only [Asked.after]
  rw [← hcur, ← hd.vblank]
  by_cases hsame : (d.vblank.applied v).cur = d.vblank.cur
  · rw [if_pos hsame]
    rw [vblankWritten, if_pos hsame] at hregular ⊢
    exact ⟨hregular, hsame.trans hd.vblank, hd.exposure⟩
  · -- The driver hears of the new blanking and moves the range of the exposure.
    rw [if_neg hsame, vblankWritten, if_neg hsame]
    have hwritten : Regular { d with vblank := d.vblank.applied v } :=
      hd.regular.withVblank
        (Ctrl.applied_settled (le_trans hd.regular.vblank_settled.min_le
          hd.regular.vblank_settled.le_max) v)
        hd.regular.vblank_minimum hd.regular.vblank_maximum
    exact Follows.ranged hpar hwritten

theorem setCtrls_follows (hd : Follows a d) (exposure gain : ℤ) :
    Follows a (driverStep par nearest d (.setCtrls exposure gain)) := by
  have hexposure : Does (writeControl par .exposure exposure) _ :=
    v4l2CtrlSCtrl_does (i := .exposure) (sCtrl_does par .exposure) exposure
  have hgain : Does (writeControl par .analogueGain gain) _ :=
    v4l2CtrlSCtrl_does (i := .analogueGain) (sCtrl_does par .analogueGain) gain
  have hout := (hexposure.seq hgain (Stable.update _ _)
    (Stable.update _ _)).outcome hd.regular.clean
  refine Follows.of_sensorOnly ?_ hout
  have hrange : d.exposure.minimum ≤ d.exposure.maximum :=
    le_trans hd.regular.exposure_settled.min_le
      hd.regular.exposure_settled.le_max
  have hregular := hd.regular.withExposure
    (Ctrl.applied_settled hrange exposure) hd.regular.exposure_minimum
    hd.regular.exposure_step
  exact ⟨{ hregular with }, hd.vblank, hd.exposure⟩

theorem stream_follows (hpar : Boosted par) (hd : Follows a d)
    (hasLed enable : Bool) (vblankDef : ℤ) :
    Follows (a.after vblankDef (.stream hasLed enable))
      (driverStep par nearest d (.stream hasLed enable)) := by
  have hsteady := hd.regular.steady
  cases enable with
  | true =>
      have hout := (streamOn_steady par hasLed).final_of_returns hsteady
      rw [Ctrl.curToNew_eq hd.regular.exposure_settled.val_eq,
        Ctrl.curToNew_eq hd.regular.vblank_settled.val_eq] at hout
      simp only [Asked.after]
      rw [← hd.vblank]
      exact (Follows.ranged hpar hd.regular).of_steady hout
  | false =>
      have hout := (streamOff_steady par hasLed).final_of_returns hsteady
      exact hd.of_steady hout

theorem driverStep_follows (hpar : Boosted par) (hnear : nearest 640 480 = 0)
    (hd : Follows a d) (c : DriverCall) :
    Follows (a.after (par.vtsBoost - irHeight) c)
      (driverStep par nearest d c) := by
  cases c with
  | setupGraph => exact setupGraph_follows hpar hnear hd
  | setVblank v => exact setVblank_follows hpar hd v _
  | setCtrls exposure gain => exact setCtrls_follows hd exposure gain
  | stream hasLed enable => exact stream_follows hpar hd hasLed enable _
  | autosuspend lost =>
      have hout := (autosuspend_steady lost).final_of_returns hd.regular.steady
      exact hd.of_steady hout

/-! ## Runs -/

theorem probe_follows (hpar : Boosted par) (hnear : nearest 640 480 = 0)
    (board : Board) :
    Follows ⟨par.vtsBoost - irHeight, par.vtsBoost - irHeight⟩
      (probe par nearest board) := by
  have h := probe_sensorOnly par nearest hpar.consistent board
  rw [hnear] at h
  have hinit : (initCtrls par board).vblank.cur = par.vtsBoost - irHeight := by
    rw [← hpar.vts]
    exact congrArg (((firstMode par).vts : ℤ) - ·)
      (congrArg Nat.cast (modeInfoData_height par initialMode))
  have hformat := Follows.format hpar (initCtrls_regular par board)
  rw [hinit] at hformat
  exact hformat.of_sensorOnly h

/-- The driver that a bridge process finds follows what was asked of it. -/
theorem leftBy_follows (hpar : Boosted par) (hnear : nearest 640 480 = 0)
    (board : Board) (calls : List DriverCall) :
    Follows (askedBy (par.vtsBoost - irHeight) calls)
      (leftBy par nearest board calls) := by
  unfold askedBy leftBy
  have hstart := probe_follows hpar hnear board
  revert hstart
  generalize probe par nearest board = d
  generalize (⟨par.vtsBoost - irHeight, par.vtsBoost - irHeight⟩ : Asked) = a
  intro hd
  induction calls generalizing a d with
  | nil => exact hd
  | cons c calls ih => exact ih _ _ (driverStep_follows hpar hnear hd c)

end Driver

/-- A bridge process derives the driver's exposure ceilings exactly if the range
of the exposure was last set for the default blanking: by the format, or by a
blanking that is the default. -/
theorem ceilings_agree_iff (par : Params) (nearest : ℕ → ℕ → Fin 3)
    (board : Board) (calls : List DriverCall) (hlo : 760 ≤ par.vtsBoost)
    (hhi : par.vtsBoost ≤ 65535) (hwin : par.winTiming = 0)
    (hnear : nearest 640 480 = 0) :
    (∀ a ∈ attempts (querySensorTiming
        (listCtrls (leftBy par nearest board calls))), CeilingAgrees a) ↔
      (askedBy (par.vtsBoost - irHeight) calls).rangeOf =
        par.vtsBoost - irHeight := by
  have hpar : Boosted par := ⟨hlo, hhi, hwin⟩
  obtain ⟨hmin, hdef⟩ := leftBy_ranged hnear board calls
  have hmax := (leftBy_follows hpar hnear board calls).exposure
  rw [listed_agree_iff hmin, hdef, hpar.vts, CeilingAgrees, hmax]
  simp only [irHeight]
  omega

/-- A board with the 15 fps boost. -/
def boostParams : Params := ⟨3448, 0⟩

def someBoard : Board := ⟨.mhz19_2, 0, fun _ => 0, 0, 0, 0⟩

/-- A session with a vertical blanking, from its first `media-ctl` to the end
of its stream. -/
def sessionCalls (vblank exposure : ℤ) : List DriverCall :=
  [.setupGraph, .setVblank vblank, .setCtrls exposure 256,
    .stream true true, .stream true false]

theorem ceilings_agree_boosted :
    (askedBy 2968
        (sessionCalls vblankStock 800 ++ sessionCalls 2968 800)).rangeOf = 2968 ∧
      ∀ a ∈ attempts (querySensorTiming (listCtrls
          (leftBy boostParams (fun _ _ => 0) someBoard
            (sessionCalls vblankStock 800 ++ sessionCalls 2968 800)))),
        CeilingAgrees a :=
  ⟨by decide, (ceilings_agree_iff boostParams (fun _ _ => 0) someBoard _
    (by decide) (by decide) rfl rfl).mpr (by decide)⟩

/-- The driver after a session that fell back to the stock blanking. -/
def leftByFallback : Device :=
  leftBy boostParams (fun _ _ => initialMode) someBoard
    (sessionCalls vblankStock 800)

theorem leftByFallback_maximum : leftByFallback.exposure.maximum = 1468 := by
  decide +kernel

theorem leftByFallback_vblank :
    leftByFallback.vblank.defaultValue = 2968 := by
  decide +kernel

theorem leftByFallback_minimum : leftByFallback.exposure.minimum = 1 := by
  have hleft : Ranged ((firstMode boostParams).vts - 480) leftByFallback :=
    leftBy_ranged rfl someBoard (sessionCalls vblankStock 800)
  exact hleft.exposure_minimum

/-- A bridge started after such a session pairs the default blanking with the
ceiling of the stock one. -/
theorem leftByFallback_disagrees :
    ¬ ∀ a ∈ attempts (querySensorTiming (listCtrls leftByFallback)),
        CeilingAgrees a := by
  rw [listed_agree_iff leftByFallback_minimum, leftByFallback_maximum,
    leftByFallback_vblank]
  unfold CeilingAgrees
  decide

theorem ceilings_disagree :
    ¬ ∀ (par : Params) (nearest : ℕ → ℕ → Fin 3) (board : Board)
        (calls : List DriverCall), 760 ≤ par.vtsBoost →
      par.vtsBoost ≤ 65535 → par.winTiming = 0 → nearest 640 480 = 0 →
        ∀ a ∈ attempts (querySensorTiming
          (listCtrls (leftBy par nearest board calls))), CeilingAgrees a := by
  intro h
  refine leftByFallback_disagrees ?_
  unfold leftByFallback
  exact h boostParams (fun _ _ => 0) someBoard (sessionCalls vblankStock 800)
    (by decide) (by decide) rfl rfl

end Infrared
end Bridges
end SurfaceCameras
