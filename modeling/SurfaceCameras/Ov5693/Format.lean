import SurfaceCameras.Ov5693.Device
import Mathlib.Data.Nat.Basic

/-!
# The OV5693 driver: formats and crop rectangles

`ov5693_set_fmt` and `ov5693_set_selection`, on the active state and on the
state of an open file handle, and the calls that ask for what they stored.
Requested sizes and positions are arbitrary 32-bit values.
-/

namespace SurfaceCameras
namespace Ov5693

open Kernel Device FixedWidth

/-- `__ov5693_calc_vts`. -/
def calcVts (height : ℕ) : Prog System Fault ℕ := do
  let fps ← divide (pixelRate / fixedPpl) height
  let tgtFps := min (roundDown fps 30) 30
  let lines ← divide (pixelRate / fixedPpl) tgtFps
  pure (roundDown lines 2)

/-- `__ov5693_get_pad_format` and `__ov5693_get_pad_crop`: the format and the
crop rectangle a call works on. -/
def padState : Which → Field Device PadState
  | .active =>
      ⟨fun d => ⟨d.mode.format, d.mode.crop⟩,
        fun d p =>
          { d with mode := { d.mode with format := p.format, crop := p.crop } },
        fun _ _ => rfl⟩
  | .try_ i =>
      ⟨fun d => d.tries i,
        fun d p => { d with tries := Function.update d.tries i p },
        fun _ _ => by simp⟩

/-- `ov5693_get_fmt` answers from the active state, whatever is asked. -/
def getFmt (_which : Which) : Prog System Fault MbusFramefmt :=
  Prog.gets fun s => s.dev.mode.format

/-! ## Setting the format -/

/-- The readout ratio of one axis: the crop size over the requested size,
rounded and limited to 1 or 2. -/
def ratio (cropSize minSize : ℕ) (requested : BitVec 32) :
    Prog System Fault ℕ := do
  let size := clamp (align requested 2).toNat minSize cropSize
  let quotient ← divRoundClosest cropSize size
  pure (clamp quotient 1 2)

/-- The binning that `ov5693_set_fmt` stores for the two ratios. -/
def Mode.setBinning (hratio vratio : ℕ) (m : Mode) : Mode :=
  { m with
    binningX := decide (1 < hratio)
    incXOdd := if 1 < hratio then 3 else 1
    binningY := decide (1 < vratio)
    incYOdd := if 1 < vratio then 3 else 1 }

/-- The part of `ov5693_set_fmt` that only an active format goes through.  The
results of the control operations are not looked at. -/
def applyFormat (hratio vratio width height : ℕ) : Prog System Fault Unit := do
  Prog.modify (modeField.ofDev.update (Mode.setBinning hratio vratio))
  let vts ← calcVts height
  Prog.modify (modeField.ofDev.update fun m => { m with vts := vts })
  ignoreErrno
    (v4l2CtrlModifyRange vblankField.ofDev (sCtrl .vblank) timingMinVts
      (timingMaxVts - height) 1 (vts - height))
  ignoreErrno
    (v4l2CtrlSCtrl vblankField.ofDev (sCtrl .vblank) (vts - height))
  let hblank : ℤ := fixedPpl - width
  ignoreErrno
    (v4l2CtrlModifyRange hblankField.ofDev (sCtrl .hblank) hblank hblank 1
      hblank)
  limitExposure (vts - integrationTimeMargin)

/-- `ov5693_set_fmt`. -/
def setFmt (which : Which) (width height : BitVec 32) :
    Prog System Fault MbusFramefmt := do
  let crop ← Prog.gets fun s => ((padState which).get s.dev).crop
  let hratio ← ratio crop.width minCropWidth width
  let vratio ← ratio crop.height minCropHeight height
  let outWidth := crop.width / hratio
  let outHeight := crop.height / vratio
  Prog.modify ((padState which).ofDev.update fun p =>
    { p with
      format :=
        { p.format with
          width := outWidth
          height := outHeight
          code := mediaBusFmtSbggr10 } })
  Prog.when (which = .active) (applyFormat hratio vratio outWidth outHeight)
  Prog.gets fun s => ((padState which).get s.dev).format

/-! ## The frame sizes -/

/-- The sizes `v4l2_subdev_frame_size_enum` answers with. -/
structure FrameSizes where
  minWidth : ℕ
  maxWidth : ℕ
  minHeight : ℕ
  maxHeight : ℕ
  deriving DecidableEq, Repr

/-- `ov5693_enum_frame_size`. -/
def enumFrameSize (which : Which) (index code : BitVec 32) :
    Prog System Fault FrameSizes :=
  if 1 < index.toNat ∨ code.toNat ≠ mediaBusFmtSbggr10 then
    Prog.raise (.errno .einval)
  else do
    let crop ← Prog.gets fun s => ((padState which).get s.dev).crop
    let width := crop.width / (index.toNat + 1)
    let height := crop.height / (index.toNat + 1)
    pure
      { minWidth := width
        maxWidth := width
        minHeight := height
        maxHeight := height }

/-! ## Setting the crop rectangle -/

/-- The targets of a selection call. -/
inductive SelTarget where
  | crop
  | cropBounds
  | cropDefault
  | nativeSize
  | other
  deriving DecidableEq, Repr

/-- A requested rectangle; the origin is signed, the size unsigned. -/
structure RectRequest where
  left : BitVec 32
  top : BitVec 32
  width : BitVec 32
  height : BitVec 32
  deriving DecidableEq, Repr

/-- The rectangle `ov5693_set_selection` makes of a request: aligned, clamped
to the pixel array, and cut off at its far edges. -/
def selectedRect (r : RectRequest) : Rect :=
  let left := clamp (align r.left 2).toInt 0 nativeWidth
  let top := clamp (align r.top 2).toInt 0 nativeHeight
  let width := clamp (align r.width 2).toNat minCropWidth nativeWidth
  let height := clamp (align r.height 2).toNat minCropHeight nativeHeight
  { left := left
    top := top
    width := min width (nativeWidth - left).toNat
    height := min height (nativeHeight - top).toNat }

/-- Store a crop rectangle; a change of its size resets the output size. -/
def storeCrop (rect : Rect) (p : PadState) : PadState :=
  if rect.width ≠ p.crop.width ∨ rect.height ≠ p.crop.height then
    { format := { p.format with width := rect.width, height := rect.height }
      crop := rect }
  else
    { p with crop := rect }

/-- `ov5693_get_selection`. -/
def getSelection (which : Which) (target : SelTarget) :
    Prog System Fault Rect :=
  match target with
  | .crop => Prog.gets fun s => ((padState which).get s.dev).crop
  | .nativeSize => pure ⟨0, 0, nativeWidth, nativeHeight⟩
  | .cropBounds | .cropDefault =>
      pure ⟨activeStartLeft, activeStartTop, activeWidth, activeHeight⟩
  | .other => Prog.raise (.errno .einval)

/-- `ov5693_set_selection`. -/
def setSelection (which : Which) (target : SelTarget) (r : RectRequest) :
    Prog System Fault Rect :=
  if target ≠ .crop then
    Prog.raise (.errno .einval)
  else do
    let rect := selectedRect r
    Prog.modify ((padState which).ofDev.update (storeCrop rect))
    pure rect

end Ov5693
end SurfaceCameras
