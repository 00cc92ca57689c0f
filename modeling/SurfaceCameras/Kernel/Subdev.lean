import Mathlib.Data.Nat.Notation
import Mathlib.Data.Int.Notation

/-!
# Formats and rectangles of a V4L2 sub-device
-/

namespace SurfaceCameras
namespace Kernel

/-- `struct v4l2_rect`: signed origin, unsigned size. -/
structure Rect where
  left : ℤ
  top : ℤ
  width : ℕ
  height : ℕ
  deriving DecidableEq, Repr

/-- `struct v4l2_mbus_framefmt`; the fields after `code` are the codes of the
corresponding V4L2 enumerations. -/
structure MbusFramefmt where
  width : ℕ
  height : ℕ
  code : ℕ
  field : ℕ
  colorspace : ℕ
  ycbcrEnc : ℕ
  quantization : ℕ
  xferFunc : ℕ
  deriving DecidableEq, Repr

/-- Where a format or selection call keeps its result: in the driver, or in
the state of one open file handle. -/
inductive Which where
  | active
  | try_ (handle : ℕ)
  deriving DecidableEq, Repr

/-- The format and crop rectangle of a pad. -/
structure PadState where
  format : MbusFramefmt
  crop : Rect
  deriving DecidableEq, Repr

/-- What the core allocates for a new file handle of a driver without
`init_state`. -/
def PadState.zero : PadState where
  format := ⟨0, 0, 0, 0, 0, 0, 0, 0⟩
  crop := ⟨0, 0, 0, 0⟩

end Kernel
end SurfaceCameras
