import SurfaceCameras.Ov7251.Device
import SurfaceCameras.Support.Runs

/-!
# The OV7251 driver: formats and frame intervals

`ov7251_set_format` and `ov7251_set_frame_interval`, the state `ov7251_probe`
leaves, and the calls user space can make on the active state.

The search for the nearest frame size belongs to the V4L2 core; it enters as a
function from the requested size to an entry of the mode table.
-/

namespace SurfaceCameras
namespace Ov7251

open Kernel Device

def mediaBusFmtY10 : ℕ := 0x200a

/-- The format fields other than the size that `ov7251_set_format` stores:
Y10, progressive, sRGB with the defaults derived from it. -/
def MbusFramefmt.y10 (width height : ℕ) : MbusFramefmt :=
  ⟨width, height, mediaBusFmtY10, 1, 8, 1, 1, 2⟩

/-- `__ov7251_get_pad_format` and `__ov7251_get_pad_crop`. -/
def padState : Which → Field Device PadState
  | .active => ⟨(·.pad), fun d p => { d with pad := p }, fun _ _ => rfl⟩
  | .try_ i =>
      ⟨fun d => d.tries i,
        fun d p => { d with tries := Function.update d.tries i p },
        fun _ _ => by simp⟩

section Calls

variable (par : Params) (nearest : ℕ → ℕ → Fin 3)

/-- Give the exposure and gain controls the values a mode starts with; the same
code stands in both callers. -/
def resetExposure (mode : ModeInfo) : Prog Device Fault Unit := do
  v4l2CtrlModifyRange exposureField (sCtrl par .exposure) 1
    mode.exposureMax 1 mode.exposureDef
  v4l2CtrlSCtrl exposureField (sCtrl par .exposure) mode.exposureDef
  v4l2CtrlSCtrl gainField (sCtrl par .analogueGain) 16

/-- The part of `ov7251_set_format` that only an active format goes through. -/
def setActiveMode (n : Fin 3) : Prog Device Fault Unit := do
  let mode := modeInfoData par n
  resetExposure par mode
  v4l2CtrlModifyRange vblankField (sCtrl par .vblank) timingMinVts
    (timingMaxVts - mode.height) 1 (mode.vts - mode.height)
  Prog.modify fun d => { d with currentMode := n }

/-- `ov7251_set_format`. -/
def setFormat (which : Which) (width height : ℕ) :
    Prog Device Fault MbusFramefmt := do
  let n := nearest width height
  let mode := modeInfoData par n
  Prog.modify ((padState which).update fun p =>
    { p with crop := { p.crop with width := mode.width, height := mode.height } })
  match which with
  | .active => setActiveMode par n
  | .try_ _ => pure ()
  Prog.modify ((padState which).update fun p =>
    { p with format := MbusFramefmt.y10 p.crop.width p.crop.height })
  Prog.gets fun d => ((padState which).get d).format

/-- `ov7251_set_frame_interval` past the check of `which`; the result is the
interval in effect. -/
def setActiveInterval (interval : Fract) : Prog Device Fault Fract := do
  let current ← Prog.gets Device.currentMode
  let n ← findModeByIval par (modeInfoData par current) interval
  Prog.when (n ≠ current) (do
    resetExposure par (modeInfoData par n)
    Prog.modify fun d => { d with currentMode := n })
  Prog.gets fun d => (modeInfoData par d.currentMode).timeperframe

/-- `ov7251_set_frame_interval`. -/
def setFrameInterval (which : Which) (interval : Fract) :
    Prog Device Fault Fract :=
  match which with
  | .try_ _ => Prog.raise (.errno .einval)
  | .active => setActiveInterval par interval

/-- `ov7251_get_frame_interval`. -/
def getFrameInterval (which : Which) : Prog Device Fault Fract :=
  match which with
  | .try_ _ => Prog.raise (.errno .einval)
  | .active => Prog.gets fun d => (modeInfoData par d.currentMode).timeperframe

/-! ## The state after probe -/

/-- What `ov7251_probe` reads off the board and the chip: the external clock,
the link frequency index, the register contents and the three registers it
keeps copies of. -/
structure Board where
  xclkRate : XclkRate
  linkFreqIdx : ℕ
  regs : ℕ → BitVec 8
  preIsp00 : BitVec 8
  timingFormat1 : BitVec 8
  timingFormat2 : BitVec 8

/-- `ov7251_init_ctrls` and the rest of a successful `ov7251_probe`, up to the
call of `ov7251_init_state`.  The device is still powered, with its last
reference dropped. -/
def initCtrls (board : Board) : Device :=
  let mode := modeInfoData par initialMode
  { xclkRate := board.xclkRate
    linkFreqIdx := if par.winTiming ≠ 0 then 1 else board.linkFreqIdx
    currentMode := initialMode
    pad := PadState.zero
    tries := fun _ => PadState.zero
    hflip := Ctrl.newStd 0 1 1 0
    vflip := Ctrl.newStd 0 1 1 0
    exposure := Ctrl.newStd 1 32 1 32
    gain := Ctrl.newStd 16 1023 1 16
    testPattern := Ctrl.newStd 0 1 1 0
    hblank := Ctrl.newStd (fixedPpl - mode.width) (fixedPpl - mode.width) 1
      (fixedPpl - mode.width)
    vblank := Ctrl.newStd timingMinVts (timingMaxVts - mode.height) 1
      (mode.vts - mode.height)
    preIsp00 := board.preIsp00
    timingFormat1 := board.timingFormat1
    timingFormat2 := board.timingFormat2
    pm := ⟨true, 0, true⟩
    power := ⟨1, 1, 1, 1, true⟩
    bus := ⟨board.regs, []⟩ }

/-- `ov7251_init_state` on the active state: its result is not looked at. -/
def initState : Prog Device Fault Unit :=
  Prog.tryCatch (setFormat par nearest .active 640 480 >>= fun _ => pure ())
    (fun _ => pure ())

/-- The device after a successful `ov7251_probe`. -/
def probe (board : Board) : Device :=
  (initState par nearest (initCtrls par board)).2

/-! ## Runs of calls on the active state -/

/-- A call on the active state; `write` is a control write from user space. -/
inductive Call where
  | setFormat (width height : ℕ)
  | setFrameInterval (interval : Fract)
  | write (id : CtrlId) (v : ℤ)

/-- The state after a call, whatever the call returns. -/
def step (d : Device) : Call → Device
  | .setFormat w h => (Ov7251.setFormat par nearest .active w h d).2
  | .setFrameInterval t => (Ov7251.setFrameInterval par .active t d).2
  | .write id v => (writeControl par id v d).2

end Calls

end Ov7251
end SurfaceCameras
