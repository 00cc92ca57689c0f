import SurfaceCameras.Bridges.InfraredTiming

/-!
# The frames of the infrared bridge

The sensor delivers ten bits in a sixteen-bit word, loopback readers want eight
bits of grey packed as YUYV.  Some starts of the sensor come up wedged: nearly
every row is pinned at full scale, or the frames come far too fast.  The bridge
looks for both in the first frames of a session.  Kernel timestamps and scaling
factors are exact rationals here.
-/

namespace SurfaceCameras
namespace Bridges
namespace Infrared

/-- A raw image, by row and column. -/
abbrev Image : Type := Fin irHeight → Fin irWidth → BitVec 16

/-- A dequeued image with its kernel timestamp. -/
structure Shot where
  image : Image
  stamp : ℚ

/-! ## Wedged starts -/

def wedgeProbeFrames : ℕ := 3

def wedgeRowLevel : ℕ := 1020

def wedgeRowFrac : ℚ := 1 / 2

def wedgeFastDt : ℚ := 2 / 5

/-- The least sample of a row. -/
def rowMin (img : Image) (y : Fin irHeight) : ℕ :=
  ((List.finRange irWidth).map fun x => (img y x).toNat).foldr min (2 ^ 16 - 1)

/-- `frame_is_wedged`. -/
def frameIsWedged (img : Image) : Bool :=
  let pinnedRows := (List.finRange irHeight).countP fun y =>
    decide (wedgeRowLevel ≤ rowMin img y)
  decide (wedgeRowFrac < (pinnedRows : ℚ) / irHeight)

/-- The differences between neighbouring timestamps. -/
def gaps (stamps : List ℚ) : List ℚ :=
  List.zipWith (fun a b => b - a) stamps stamps.tail

/-- Why a start counts as wedged. -/
inductive Wedge where
  | pinned (frames total : ℕ)
  | fast (dts : List ℚ)
  deriving DecidableEq, Repr

/-- The frames among the probed ones that are pinned. -/
def pinnedShots (shots : List Shot) : ℕ :=
  shots.countP fun s => frameIsWedged s.image

/-- The gaps between the probed frames that are far below the nominal one. -/
def fastGaps (nominal : ℚ) (shots : List Shot) : ℕ :=
  (gaps (shots.map Shot.stamp)).countP fun dt =>
    decide (dt < nominal * wedgeFastDt)

/-- The verdict of `wedge_probe` on the frames that it has seen. -/
def wedgeVerdict (nominal : ℚ) (shots : List Shot) : Option Wedge :=
  let dts := gaps (shots.map Shot.stamp)
  if 2 ≤ pinnedShots shots then
    some (.pinned (pinnedShots shots) shots.length)
  else if 2 ≤ fastGaps nominal shots ∧ 2 ≤ dts.length then
    some (.fast dts)
  else
    none

/-- The frame period that the blanking of an attempt implies. -/
def SensorTiming.nominalDt (t : SensorTiming) (vblank : ℤ) : ℚ :=
  t.nominalFrameDt * (irHeight + vblank : ℤ) / (irHeight + t.vblankDef : ℤ)

theorem length_gaps (stamps : List ℚ) :
    (gaps stamps).length = stamps.length - 1 := by
  simp [gaps]

theorem fastGaps_le (nominal : ℚ) (shots : List Shot) :
    fastGaps nominal shots ≤ shots.length - 1 := by
  have hle := List.countP_le_length
    (p := fun dt => decide (dt < nominal * wedgeFastDt))
    (l := gaps (shots.map Shot.stamp))
  rwa [length_gaps, List.length_map] at hle

/-- A start is accepted unless two frames are pinned or two gaps are short. -/
theorem wedgeVerdict_eq_none_iff {nominal : ℚ} {shots : List Shot} :
    wedgeVerdict nominal shots = none ↔
      pinnedShots shots < 2 ∧ fastGaps nominal shots < 2 := by
  have hle := fastGaps_le nominal shots
  have hlen : (gaps (shots.map Shot.stamp)).length = shots.length - 1 := by
    rw [length_gaps, List.length_map]
  rw [wedgeVerdict]
  split
  · next hpinned =>
      apply iff_of_false (Option.some_ne_none _)
      exact fun h => absurd h.1 (not_lt.mpr hpinned)
  · next hpinned =>
      split
      · next hfast =>
          apply iff_of_false (Option.some_ne_none _)
          exact fun h => absurd h.2 (not_lt.mpr hfast.1)
      · next hfast =>
          apply iff_of_true rfl
          omega

theorem wedgeVerdict_ne_none_short {nominal : ℚ} {shots : List Shot}
    (hlen : shots.length < wedgeProbeFrames) :
    wedgeVerdict nominal shots ≠ none ↔ 2 ≤ pinnedShots shots := by
  have hle := fastGaps_le nominal shots
  rw [ne_eq, wedgeVerdict_eq_none_iff]
  simp only [wedgeProbeFrames] at hlen
  omega

/-! ## Conversion -/

/-- An eight-bit image. -/
abbrev Grey : Type := Fin irHeight → Fin irWidth → BitVec 8

/-- `(img >> 2).astype(np.uint8)`. -/
def shiftSample (x : BitVec 16) : BitVec 8 := (x >>> 2).setWidth 8

/-- `np.clip(img * (digital / 4), 0, 255).astype(np.uint8)`. -/
def scaleSample (digital : ℚ) (x : BitVec 16) : BitVec 8 :=
  BitVec.ofNat 8 ⌊min (max ((x.toNat : ℚ) * (digital / 4)) 0) 255⌋₊

/-- Ten bits to eight, with a digital gain. -/
def convert (digital : ℚ) (img : Image) : Grey := fun y x =>
  if digital = 1 then shiftSample (img y x) else scaleSample digital (img y x)

/-- `out.mean()`. -/
def mean (out : Grey) : ℚ :=
  (((List.finRange irHeight).map fun y =>
    ((List.finRange irWidth).map fun x => (out y x).toNat).sum).sum : ℕ) /
    (irHeight * irWidth : ℕ)

/-- A packed frame: grey and chroma of every pixel. -/
abbrev Yuyv : Type := Fin irHeight → Fin irWidth → BitVec 8 × BitVec 8

/-- Grey with neutral chroma. -/
def yuyv (out : Grey) : Yuyv := fun y x => (out y x, 128)

/-- What the loopback is given for an image. -/
def packed (digital : ℚ) (img : Image) : Yuyv := yuyv (convert digital img)

end Infrared
end Bridges
end SurfaceCameras
