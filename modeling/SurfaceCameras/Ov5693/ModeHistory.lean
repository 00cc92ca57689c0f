import SurfaceCameras.Ov5693.Coherence
import SurfaceCameras.Ov5693.System

/-!
# The mode of the OV5693 driver along a run

What a call stores in `struct ov5693_mode` is settled before it talks to the
sensor, so failing transfers do not matter to it.  The mode holds more than
user space sees: the crop rectangle and the format follow the last calls that
set them, the binning and the sub-increments follow the last format call and
stay at zero until there is one.
-/

namespace SurfaceCameras
namespace Ov5693

open Kernel Device FixedWidth Prog Runs

/-! ## The binning a format call asks for -/

/-- The requested size is at most two thirds of the crop size, so that half of
the crop comes closer to it than all of it. -/
def Halves (cropSize : ℕ) (requested : BitVec 32) : Prop :=
  3 * max (align requested 2).toNat 2 ≤ 2 * cropSize

instance (cropSize : ℕ) (requested : BitVec 32) :
    Decidable (Halves cropSize requested) :=
  inferInstanceAs (Decidable (_ ≤ _))

theorem two_le_quotient_iff {cropSize size : ℕ} (heven : size % 2 = 0)
    (hpos : 2 ≤ size) :
    2 ≤ (cropSize + size / 2) / size ↔ 3 * size ≤ 2 * cropSize := by
  rw [Nat.le_div_iff_mul_le (by omega)]
  omega

/-- Every size that a request is clamped to is even, or the crop size. -/
theorem ratioOf_eq_two_iff {cropSize : ℕ} (hpos : 0 < cropSize)
    (hle : cropSize ≤ 2624) (requested : BitVec 32) :
    ratioOf cropSize 2 requested = 2 ↔ Halves cropSize requested := by
  have halign := align_two_toNat_even requested
  unfold ratioOf Halves
  dsimp only
  revert halign
  generalize (align requested 2).toNat = size
  intro halign
  have hsize : clamp size 2 cropSize = cropSize ∨
      clamp size 2 cropSize = max size 2 ∧ max size 2 % 2 = 0 := by
    unfold clamp
    split
    · exact Or.inl rfl
    · split
      · exact Or.inr (by omega)
      · exact Or.inr (by omega)
  have hiff : 3 * clamp size 2 cropSize ≤ 2 * cropSize ↔
      3 * max size 2 ≤ 2 * cropSize := by
    unfold clamp
    split
    · omega
    · split <;> omega
  have hquotient : 2 ≤ (cropSize + clamp size 2 cropSize / 2) /
      clamp size 2 cropSize ↔ 3 * clamp size 2 cropSize ≤ 2 * cropSize := by
    rcases hsize with h | ⟨h, heven⟩
    · rw [h, Nat.le_div_iff_mul_le hpos]
      omega
    · rw [h]
      exact two_le_quotient_iff heven (by omega)
  have hbound : clamp size 2 cropSize ≤ 2624 := by
    unfold clamp
    split
    · exact hle
    · split <;> omega
  rw [Nat.mod_eq_of_lt (by omega), ← hiff, ← hquotient]
  generalize (cropSize + clamp size 2 cropSize / 2) / clamp size 2 cropSize = q
  unfold clamp
  split
  · omega
  · split <;> omega

theorem ratioOf_eq {cropSize : ℕ} (hpos : 0 < cropSize)
    (hle : cropSize ≤ 2624) (requested : BitVec 32) :
    ratioOf cropSize 2 requested =
      binningRatio (decide (Halves cropSize requested)) := by
  have hiff := ratioOf_eq_two_iff hpos hle requested
  by_cases hhalves : Halves cropSize requested
  · rw [hiff.mpr hhalves, decide_eq_true hhalves]
    rfl
  · rw [decide_eq_false hhalves]
    have hne : ratioOf cropSize 2 requested ≠ 2 := fun h => hhalves (hiff.mp h)
    exact (ratioOf_mem cropSize 2 requested).resolve_right hne

/-- The output size of an axis. -/
def outputSize (cropSize : ℕ) (requested : BitVec 32) : ℕ :=
  if Halves cropSize requested then cropSize / 2 else cropSize

theorem div_ratioOf {cropSize : ℕ} (hpos : 0 < cropSize)
    (hle : cropSize ≤ 2624) (requested : BitVec 32) :
    cropSize / ratioOf cropSize 2 requested = outputSize cropSize requested := by
  rw [ratioOf_eq hpos hle, outputSize]
  by_cases hhalves : Halves cropSize requested
  · rw [if_pos hhalves, decide_eq_true hhalves]
    rfl
  · rw [if_neg hhalves, decide_eq_false hhalves]
    exact Nat.div_one cropSize

theorem outputSize_bounds {cropSize : ℕ} (hpos : 0 < cropSize)
    (requested : BitVec 32) :
    0 < outputSize cropSize requested ∧
      outputSize cropSize requested ≤ cropSize := by
  unfold outputSize
  split
  · next h =>
      have h : 3 * max (align requested 2).toNat 2 ≤ 2 * cropSize := h
      omega
  · omega

/-- The rectangle is not empty and not larger than the pixel array. -/
structure CropFits (r : Rect) : Prop where
  width_pos : 0 < r.width
  width_le : r.width ≤ nativeWidth
  height_pos : 0 < r.height
  height_le : r.height ≤ nativeHeight

theorem InArray.fits {r : Rect} (h : InArray r) (hw : 0 < r.width)
    (hh : 0 < r.height) : CropFits r := by
  have hleft := h.left_nonneg
  have htop := h.top_nonneg
  have hright := h.right_le
  have hbottom := h.bottom_le
  exact ⟨hw, by omega, hh, by omega⟩

/-! ## The mode after a call -/

/-- Format and binning are those of a format call that asked for this
binning. -/
def Mode.formatted (x y : Bool) (m : Mode) : Mode :=
  { crop := m.crop
    format := MbusFramefmt.sized (m.crop.width / binningRatio x)
      (m.crop.height / binningRatio y) m.format
    binningX := x
    binningY := y
    incXOdd := if x then 3 else 1
    incYOdd := if y then 3 else 1
    vts := 2078 }

theorem setBinning_formatted (x y : Bool) (m : Mode) :
    { Mode.setBinning (binningRatio x) (binningRatio y)
        { m with
          format := MbusFramefmt.sized (m.crop.width / binningRatio x)
            (m.crop.height / binningRatio y) m.format } with
      vts := 2078 } = m.formatted x y := by
  cases x <;> cases y <;> rfl

/-- The crop rectangle has been selected. -/
def Mode.cropped (rect : Rect) (m : Mode) : Mode :=
  { m with
    format := (storeCrop rect ⟨m.format, m.crop⟩).format
    crop := rect }

/-- The binning that a format call on the active state stores. -/
def Mode.asked (w h : BitVec 32) (m : Mode) : Bool × Bool :=
  (decide (Halves m.crop.width w), decide (Halves m.crop.height h))

/-- The mode after a call. -/
def Mode.after (m : Mode) : Call → Mode
  | .setFmt .active w h =>
      if m.crop.width = 0 ∨ m.crop.height = 0 then m
      else m.formatted (m.asked w h).1 (m.asked w h).2
  | .setSelection .active .crop r => m.cropped (selectedRect r)
  | _ => m

theorem mode_admits :
    Admits (Frame.fixing fun s : System => s.dev.mode) everywhere
      everywhere where
  outcomes _ _ := rfl
  store _ _ _ _ := rfl
  hold _ _ _ h := h
  ctrl _ i _ _ := by cases i <;> rfl

/-- The control operations of a format call come after the mode is stored and
leave it as it is. -/
theorem applyFormat_mode (hratio vratio width : ℕ) {height : ℕ}
    (hpos : 1 ≤ height) (hle : height ≤ 1956) (s : System) :
    (applyFormat hratio vratio width height s).2.dev.mode =
      { s.dev.mode.setBinning hratio vratio with vts := 2078 } := by
  have hset : Stays (Frame.fixing fun s : System => s.dev.mode)
      (sCtrl .vblank) :=
    sCtrl_stays mode_admits trivial (fun _ _ => trivial) fun _ _ => trivial
  have hline : Stays (Frame.fixing fun s : System => s.dev.mode)
      (sCtrl .hblank) :=
    sCtrl_stays mode_admits trivial (fun _ _ => trivial) fun _ _ => trivial
  unfold applyFormat
  rw [Prog.bind_ok (Prog.modify_apply _ s),
    Prog.bind_ok (calcVts_eq hpos hle _), Prog.bind_ok (Prog.modify_apply _ _)]
  refine Stays.fixed (f := fun s : System => s.dev.mode) ?_ _
  refine (ignoreErrno_stays (modifyRange_stays mode_admits (i := .vblank)
    trivial hset _ _ _ _)).bind fun _ => ?_
  refine (ignoreErrno_stays (v4l2CtrlSCtrl_stays
    (c := vblankField.ofDev) (fun _ => rfl) (fun _ => rfl) hset
      fun _ => rfl)).bind fun _ => ?_
  refine (ignoreErrno_stays (modifyRange_stays mode_admits (i := .hblank)
    trivial hline _ _ _ _)).bind fun _ => ?_
  exact limitExposure_stays mode_admits trivial (fun _ _ => trivial) _

/-- What a format call on the active state stores, whatever becomes of its
transfers. -/
theorem setFmt_formatted (w h : BitVec 32) {s : System}
    (hs : CropFits s.dev.mode.crop) :
    (setFmt .active w h s).2.dev.mode =
      s.dev.mode.formatted (s.dev.mode.asked w h).1 (s.dev.mode.asked w h).2 := by
  have htall : nativeHeight ≤ 2624 := by decide
  have hx : ratioOf s.dev.mode.crop.width minCropWidth w =
      binningRatio (s.dev.mode.asked w h).1 :=
    ratioOf_eq hs.width_pos hs.width_le w
  have hy : ratioOf s.dev.mode.crop.height minCropHeight h =
      binningRatio (s.dev.mode.asked w h).2 :=
    ratioOf_eq hs.height_pos (hs.height_le.trans htall) h
  have hout : s.dev.mode.crop.height /
      ratioOf s.dev.mode.crop.height minCropHeight h =
        outputSize s.dev.mode.crop.height h :=
    div_ratioOf hs.height_pos (hs.height_le.trans htall) h
  obtain ⟨hlo, hhi⟩ := outputSize_bounds hs.height_pos h
  rw [← hout] at hlo hhi
  have hmode := applyFormat_mode
    (ratioOf s.dev.mode.crop.width minCropWidth w)
    (ratioOf s.dev.mode.crop.height minCropHeight h)
    (s.dev.mode.crop.width / ratioOf s.dev.mode.crop.width minCropWidth w)
    hlo (hhi.trans hs.height_le)
    ((padState .active).ofDev.update (formattedPad w h) s)
  have hstored : ((padState .active).ofDev.update (formattedPad w h)
      s).dev.mode = { s.dev.mode with
        format := MbusFramefmt.sized
          (s.dev.mode.crop.width / binningRatio (s.dev.mode.asked w h).1)
          (s.dev.mode.crop.height / binningRatio (s.dev.mode.asked w h).2)
          s.dev.mode.format } := by
    rw [← hx, ← hy]
    rfl
  rw [hstored] at hmode
  rw [setFmt_of_pos .active w h hs.width_pos hs.height_pos,
    Prog.bind_ok (Prog.modify_apply _ s), Prog.when_pos rfl,
    Prog.bind_gets_state]
  refine hmode.trans ?_
  rw [hx, hy]
  exact setBinning_formatted _ _ _

theorem setFmt_mode (w h : BitVec 32) {s : System}
    (hs : InArray s.dev.mode.crop) :
    (setFmt .active w h s).2.dev.mode =
      s.dev.mode.after (.setFmt .active w h) := by
  by_cases hempty : s.dev.mode.crop.width = 0 ∨ s.dev.mode.crop.height = 0
  · rw [Mode.after, if_pos hempty]
    exact congrArg (fun x : Except Fault MbusFramefmt × System =>
      x.2.dev.mode) (setFmt_of_empty .active w h hempty)
  · rw [Mode.after, if_neg hempty]
    exact setFmt_formatted w h (hs.fits (by omega) (by omega))

/-- A selection stores the crop rectangle and, if its size is new, the output
size. -/
theorem setSelection_mode (r : RectRequest) (s : System) :
    (setSelection .active .crop r s).2.dev.mode =
      s.dev.mode.cropped (selectedRect r) := by
  rw [setSelection_crop]
  change { s.dev.mode with
    format := (storeCrop (selectedRect r) ⟨s.dev.mode.format,
      s.dev.mode.crop⟩).format
    crop := (storeCrop (selectedRect r) ⟨s.dev.mode.format,
      s.dev.mode.crop⟩).crop } = _
  unfold storeCrop Mode.cropped
  split
  · next h =>
      unfold storeCrop
      rw [if_pos h]
  · next h =>
      unfold storeCrop
      rw [if_neg h]

theorem setFmt_try_mode (i : ℕ) (w h : BitVec 32) (s : System) :
    (setFmt (.try_ i) w h s).2.dev.mode = s.dev.mode := by
  by_cases hempty : (s.dev.tries i).crop.width = 0 ∨
      (s.dev.tries i).crop.height = 0
  · rw [setFmt_of_empty (.try_ i) w h hempty]
  · obtain ⟨fmt, hrun⟩ := setFmt_try w h (s := s) (i := i) (by omega) (by omega)
    rw [hrun]
    rfl

section Parameters

variable (binnedYOffset : ℤ)

/-- The mode after a call, whatever becomes of its transfers. -/
theorem sysStep_mode {s : System} (hs : InArray s.dev.mode.crop)
    (x : List Bool × Call) :
    (sysStep binnedYOffset s x).dev.mode = s.dev.mode.after x.2 := by
  obtain ⟨outcomes, c⟩ := x
  have hF := mode_admits
  cases c with
  | setFmt which w h =>
      cases which with
      | active => exact setFmt_mode w h (s := s.facing outcomes) hs
      | try_ i => exact setFmt_try_mode i w h (s.facing outcomes)
  | setSelection which target r =>
      by_cases htarget : target = .crop
      · subst htarget
        cases which with
        | active => exact setSelection_mode r (s.facing outcomes)
        | try_ i => rfl
      · have hkeep : s.dev.mode.after (.setSelection which target r) =
            s.dev.mode := by
          cases which <;> cases target <;>
            first | rfl | exact absurd rfl htarget
        rw [hkeep, sysStep, step, setSelection_other which htarget]
        rfl
  | write i v =>
      exact (writeControl_stays hF (i := i) trivial (fun _ _ => trivial) trivial
        (fun _ _ => trivial) v).fixed (s.facing outcomes)
  | sStream enable =>
      exact (sStream_stays hF (fun _ _ => rfl) (fun _ _ => rfl) binnedYOffset
        enable).fixed (s.facing outcomes)
  | autosuspend lost =>
      rw [sysStep, step, autosuspend_eq]
      dsimp only
      split
      · rfl
      · rfl

theorem after_inArray {m : Mode} (hm : InArray m.crop) (c : Call) :
    InArray (m.after c).crop := by
  match c with
  | .setFmt .active w h =>
      simp only [Mode.after]
      split
      · exact hm
      · exact hm
  | .setSelection .active .crop r => exact selectedRect_inArray r
  | .setFmt (.try_ _) _ _ | .setSelection (.try_ _) _ _
  | .setSelection .active .cropBounds _ | .setSelection .active .cropDefault _
  | .setSelection .active .nativeSize _ | .setSelection .active .other _
  | .write _ _ | .sStream _ | .autosuspend _ => exact hm

/-- The mode after a run follows from the calls alone. -/
theorem run_mode {s : System} (hs : InArray s.dev.mode.crop)
    (calls : List (List Bool × Call)) :
    (run (sysStep binnedYOffset) s calls).dev.mode =
      run Mode.after s.dev.mode (calls.map Prod.snd) := by
  induction calls generalizing s with
  | nil => rfl
  | cons x calls ih =>
      have hmode := sysStep_mode binnedYOffset hs x
      have hcrop : InArray (sysStep binnedYOffset s x).dev.mode.crop := by
        rw [hmode]
        exact after_inArray hs x.2
      rw [run_cons, ih hcrop, hmode]
      rfl

end Parameters

/-! ## What user space does not see -/

/-- What a run has asked for: the crop rectangle, and the binning of the last
format call. -/
structure History where
  crop : Rect
  asked : Option (Bool × Bool)
  deriving DecidableEq

def History.start : History := ⟨defaultCrop, none⟩

/-- A call asks for a crop rectangle or, where that is not empty, for a
binning. -/
def History.step (h : History) : Call → History
  | .setFmt .active width height =>
      if h.crop.width = 0 ∨ h.crop.height = 0 then h
      else
        { h with
          asked := some (decide (Halves h.crop.width width),
            decide (Halves h.crop.height height)) }
  | .setSelection .active .crop r => { h with crop := selectedRect r }
  | _ => h

/-- The binning that the last format call of a run asked for. -/
def askedBinning (calls : List (List Bool × Call)) : Option (Bool × Bool) :=
  (run History.step History.start (calls.map Prod.snd)).asked

/-- The sub-increment of an axis, none if no format call has set it. -/
def subIncrement : Option Bool → ℕ
  | none => 0
  | some false => 1
  | some true => 3

/-- The mode holds what the history asked for. -/
structure Follows (h : History) (m : Mode) : Prop where
  crop : m.crop = h.crop
  binningX : m.binningX = ((h.asked.map Prod.fst).getD false)
  binningY : m.binningY = ((h.asked.map Prod.snd).getD false)
  incXOdd : m.incXOdd = subIncrement (h.asked.map Prod.fst)
  incYOdd : m.incYOdd = subIncrement (h.asked.map Prod.snd)

theorem after_follows {h : History} {m : Mode} (hm : Follows h m) (c : Call) :
    Follows (h.step c) (m.after c) := by
  have hsub : ∀ b : Bool, (if b then 3 else 1) = subIncrement (some b) := by
    decide
  match c with
  | .setFmt .active width height =>
      simp only [History.step, Mode.after, hm.crop]
      split
      · exact hm
      · refine ⟨hm.crop, ?_, ?_, ?_, ?_⟩
        · rw [← hm.crop]
          rfl
        · rw [← hm.crop]
          rfl
        · rw [← hm.crop]
          exact hsub _
        · rw [← hm.crop]
          exact hsub _
  | .setSelection .active .crop r =>
      exact ⟨rfl, hm.binningX, hm.binningY, hm.incXOdd, hm.incYOdd⟩
  | .setFmt (.try_ _) _ _ | .setSelection (.try_ _) _ _
  | .setSelection .active .cropBounds _ | .setSelection .active .cropDefault _
  | .setSelection .active .nativeSize _ | .setSelection .active .other _
  | .write _ _ | .sStream _ | .autosuspend _ => exact hm

theorem probe_mode (regs : ℕ → BitVec 8) :
    (probe regs).dev.mode = probedDevice.mode := by
  rw [probe_eq]

/-- In every run from probe the hidden part of the mode is what the last format
call asked for. -/
theorem run_follows (binnedYOffset : ℤ) (regs : ℕ → BitVec 8)
    (calls : List (List Bool × Call)) :
    Follows (run History.step History.start (calls.map Prod.snd))
      (run (sysStep binnedYOffset) (probe regs) calls).dev.mode := by
  have hcrop : InArray (probe regs).dev.mode.crop := by
    rw [probe_mode]
    exact defaultCrop_inArray
  rw [run_mode binnedYOffset hcrop, probe_mode]
  have hall : ∀ (cs : List Call) (h : History) (m : Mode), Follows h m →
      Follows (run History.step h cs) (run Mode.after m cs) := by
    intro cs
    induction cs with
    | nil => exact fun _ _ hm => hm
    | cons c cs ih => exact fun h m hm => ih _ _ (after_follows hm c)
  exact hall _ _ _ ⟨rfl, rfl, rfl, rfl, rfl⟩

end Ov5693
end SurfaceCameras
