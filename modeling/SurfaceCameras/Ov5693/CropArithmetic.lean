import SurfaceCameras.Ov5693.StreamEffects
import Mathlib.Tactic.Linarith

/-!
# Crop rectangles of the OV5693 driver

Only a crop selection changes a crop rectangle, and what it stores lies in the
pixel array with even coordinates.  The rectangle is empty exactly if the
selection starts at the far edge of the array; the rectangle of a new file
handle is empty too.  `ov5693_set_fmt` divides by sizes it clamps to the crop
rectangle, so an empty one makes it trap, and nothing else does.
-/

namespace SurfaceCameras
namespace Ov5693

open Kernel Device FixedWidth Runs

/-- The rectangle lies in the pixel array, with even coordinates. -/
structure InArray (r : Rect) : Prop where
  left_even : r.left % 2 = 0
  top_even : r.top % 2 = 0
  width_even : r.width % 2 = 0
  height_even : r.height % 2 = 0
  left_nonneg : 0 ≤ r.left
  top_nonneg : 0 ≤ r.top
  right_le : r.left + r.width ≤ nativeWidth
  bottom_le : r.top + r.height ≤ nativeHeight

/-- A rectangle in the array of at least the smallest size. -/
structure UsableCrop (r : Rect) : Prop extends InArray r where
  min_width : minCropWidth ≤ r.width
  min_height : minCropHeight ≤ r.height

/-- The aligned origin lies before the far edges of the array. -/
def StartsInside (r : RectRequest) : Prop :=
  (align r.left 2).toInt < nativeWidth ∧ (align r.top 2).toInt < nativeHeight

/-! ## One axis of a selection -/

section Axis

/-- The origin and the size `ov5693_set_selection` computes on one axis. -/
def axisOrigin (origin : BitVec 32) (native : ℕ) : ℤ :=
  clamp (align origin 2).toInt 0 native

def axisSize (origin size : BitVec 32) (native : ℕ) : ℕ :=
  min (clamp (align size 2).toNat 2 native)
    (native - axisOrigin origin native).toNat

theorem axisOrigin_bounds (origin : BitVec 32) (native : ℕ) :
    0 ≤ axisOrigin origin native ∧ axisOrigin origin native ≤ native :=
  ⟨le_clamp (Int.natCast_nonneg native), clamp_le (Int.natCast_nonneg native)⟩

variable (origin size : BitVec 32) {native : ℕ}

theorem axisOrigin_even (heven : native % 2 = 0) :
    axisOrigin origin native % 2 = 0 := by
  have halign := align_two_toInt_even origin
  unfold axisOrigin
  rcases clamp_cases (align origin 2).toInt 0 (native : ℤ) with h | h | h
  · rw [h]
    exact halign
  · rw [h]
    rfl
  · rw [h]
    omega

theorem axisSize_even (heven : native % 2 = 0) :
    axisSize origin size native % 2 = 0 := by
  have horigin := axisOrigin_even origin heven
  have hbounds := axisOrigin_bounds origin native
  have halign := align_two_toNat_even size
  unfold axisSize
  have hclamp : clamp (align size 2).toNat 2 native % 2 = 0 := by
    rcases clamp_cases (align size 2).toNat 2 native with h | h | h
    · rw [h]
      exact halign
    · rw [h]
    · rw [h]
      exact heven
  omega

theorem axisSize_le :
    axisOrigin origin native + axisSize origin size native ≤ native := by
  have hbounds := axisOrigin_bounds origin native
  unfold axisSize
  omega

/-- The axis is empty exactly if it starts at the far edge. -/
theorem two_le_axisSize_iff (native : ℕ) (heven : native % 2 = 0) (hnative : 2 ≤ native) :
    2 ≤ axisSize origin size native ↔ (align origin 2).toInt < native := by
  have horigin := axisOrigin_even origin heven
  have hbounds := axisOrigin_bounds origin native
  have hsize : 2 ≤ clamp (align size 2).toNat 2 native := le_clamp hnative
  have hedge : axisOrigin origin native < native ↔
      (align origin 2).toInt < native := by
    unfold axisOrigin clamp
    split
    · omega
    · split <;> omega
  rw [← hedge]
  unfold axisSize
  omega

end Axis

theorem selectedRect_eq (r : RectRequest) :
    selectedRect r =
      { left := axisOrigin r.left nativeWidth
        top := axisOrigin r.top nativeHeight
        width := axisSize r.left r.width nativeWidth
        height := axisSize r.top r.height nativeHeight } :=
  rfl

theorem selectedRect_inArray (r : RectRequest) : InArray (selectedRect r) := by
  rw [selectedRect_eq]
  exact
    { left_even := axisOrigin_even _ (by decide)
      top_even := axisOrigin_even _ (by decide)
      width_even := axisSize_even _ _ (by decide)
      height_even := axisSize_even _ _ (by decide)
      left_nonneg := (axisOrigin_bounds _ _).1
      top_nonneg := (axisOrigin_bounds _ _).1
      right_le := axisSize_le _ _
      bottom_le := axisSize_le _ _ }

theorem usableCrop_selectedRect_iff (r : RectRequest) :
    UsableCrop (selectedRect r) ↔ StartsInside r := by
  have hw := two_le_axisSize_iff r.left r.width nativeWidth
    (by decide) (by decide)
  have hh := two_le_axisSize_iff r.top r.height nativeHeight
    (by decide) (by decide)
  constructor
  · rintro ⟨-, hwidth, hheight⟩
    exact ⟨hw.mp hwidth, hh.mp hheight⟩
  · rintro ⟨hwidth, hheight⟩
    exact ⟨selectedRect_inArray r, hw.mpr hwidth, hh.mpr hheight⟩

/-! ## The crop rectangle along a run -/

/-- The crop rectangle of every context. -/
def Readout.crops (r : Readout) : Which → Rect
  | .active => r.mode.crop
  | .try_ i => (r.tries i).crop

def Device.crops (d : Device) : Which → Rect := d.readout.crops

theorem crops_eq (d : Device) (which : Which) :
    d.crops which = ((padState which).get d).crop := by
  cases which <;> rfl

theorem fixes_crops {e : Effect Device} (h : Fixes Device.readout e) :
    Fixes Device.crops e :=
  h.map Readout.crops

/-- Storing a format keeps every crop rectangle. -/
theorem formattedPad_crops (which : Which) (width height : BitVec 32)
    (d : Device) :
    ((padState which).update (formattedPad width height) d).crops = d.crops := by
  funext which'
  cases which with
  | active => cases which' <;> rfl
  | try_ i =>
      cases which' with
      | active => rfl
      | try_ j =>
          by_cases hij : j = i
          · subst hij
            simp [Device.crops, Readout.crops, Device.readout, padState,
              Field.update, formattedPad]
          · simp [Device.crops, Readout.crops, Device.readout, padState,
              Field.update, Function.update_of_ne hij]

/-- Storing a crop rectangle changes the one of its context. -/
theorem storeCrop_crops (which : Which) (rect : Rect) (d : Device) :
    ((padState which).update (storeCrop rect) d).crops =
      Function.update d.crops which rect := by
  have hcrop : ∀ p, (storeCrop rect p).crop = rect := by
    intro p
    unfold storeCrop
    split <;> rfl
  funext which'
  by_cases hsame : which' = which
  · subst hsame
    rw [Function.update_self, crops_eq, Field.get_update, hcrop]
  · rw [Function.update_of_ne hsame]
    cases which with
    | active =>
        cases which' with
        | active => exact absurd rfl hsame
        | try_ j => rfl
    | try_ i =>
        cases which' with
        | active => rfl
        | try_ j =>
            have hij : j ≠ i := fun h => hsame (h ▸ rfl)
            simp [Device.crops, Readout.crops, Device.readout, padState,
              Field.update, Function.update_of_ne hij]

theorem setFmtEffect_crops (width height : BitVec 32) (which : Which) :
    Fixes Device.crops (setFmtEffect width height which) := by
  cases which with
  | active =>
      have hformat : ∀ hratio vratio width height,
          Fixes Device.crops (formatEffect hratio vratio width height) :=
        formatEffect_fixes (fun _ => rfl) (fun _ _ _ => rfl) (fun _ _ => rfl)
          (fun _ _ => rfl)
      intro d
      exact (Fixes.silent (formattedPad_crops .active width height)).seq
        (hformat _ _ _ _) d
  | try_ i => exact Fixes.silent (formattedPad_crops (.try_ i) width height)

theorem writeEffect_crops (id : CtrlId) (v : ℤ) :
    Fixes Device.crops (writeEffect id v) := by
  have hupdate : ∀ (g : Ctrl → Ctrl) (d : Device),
      ((ctrlField id).update g d).crops = d.crops := by
    intro g d
    cases id <;> rfl
  exact Fixes.writeCtrl hupdate (fixes_crops (sCtrl_readout id)) (ctrlType id) v

/-- Every crop rectangle lies in the array, and every transfer succeeds. -/
structure CropsInArray (s : System) : Prop where
  clean : s.Clean
  inArray : ∀ which, InArray (s.dev.crops which)

theorem InArray.usable {r : Rect} (h : InArray r) (hw : 0 < r.width)
    (hh : 0 < r.height) : UsableCrop r := by
  have hweven := h.width_even
  have hheven := h.height_even
  refine ⟨h, ?_, ?_⟩
  · change 2 ≤ r.width
    omega
  · change 2 ≤ r.height
    omega

theorem InArray.height_le {r : Rect} (h : InArray r) : r.height ≤ 1956 := by
  have htop := h.top_nonneg
  have hbottom := h.bottom_le
  simp only [nativeHeight] at hbottom
  omega

/-- `ov5693_set_fmt` either traps on an empty crop and changes nothing, or
returns. -/
theorem setFmt_cases (which : Which) (width height : BitVec 32) {s : System}
    (hs : CropsInArray s) :
    (¬ UsableCrop (s.dev.crops which) ∧
      setFmt which width height s = (.error .divideError, s)) ∨
    (UsableCrop (s.dev.crops which) ∧
      ∃ fmt, setFmt which width height s =
        (.ok fmt, s.after (setFmtEffect width height which s.dev))) := by
  by_cases hempty : (s.dev.crops which).width = 0 ∨
      (s.dev.crops which).height = 0
  · refine Or.inl ⟨?_, setFmt_of_empty which width height ?_⟩
    · rintro ⟨-, hw, hh⟩
      simp only [minCropWidth, minCropHeight] at hw hh
      omega
    · rwa [← crops_eq]
  · have hw : 0 < (s.dev.crops which).width := by omega
    have hh : 0 < (s.dev.crops which).height := by omega
    have huse := (hs.inArray which).usable hw hh
    refine Or.inr ⟨huse, ?_⟩
    cases which with
    | active =>
        exact setFmt_active width height hs.clean hw huse.min_height
          (hs.inArray .active).height_le
    | try_ i => exact setFmt_try width height hw hh

/-! ## The crop rectangle along a run -/

/-- The rectangle a call selects for a context. -/
def selectionOf (which : Which) : Call → Option RectRequest
  | .setSelection which' .crop r => if which' = which then some r else none
  | _ => none

/-- The crop rectangle of a context after a call. -/
def cropAfter (which : Which) (rect : Rect) (c : Call) : Rect :=
  ((selectionOf which c).map selectedRect).getD rect

section Parameters

variable (binnedYOffset : ℤ)

/-- One call changes the crop rectangle it selects and no other, and keeps
every rectangle in the array. -/
theorem step_crops {s : System} (hs : CropsInArray s) (c : Call) :
    (step binnedYOffset s c).Clean ∧
      ∀ which, (step binnedYOffset s c).dev.crops which =
        cropAfter which (s.dev.crops which) c := by
  cases c with
  | setFmt which w h =>
      rcases setFmt_cases which w h hs with ⟨-, hrun⟩ | ⟨-, fmt, hrun⟩
      · rw [step, hrun]
        exact ⟨hs.clean, fun _ => rfl⟩
      · rw [step, hrun]
        exact ⟨hs.clean, fun which' =>
          congrFun (setFmtEffect_crops w h which s.dev) which'⟩
  | setSelection which target r =>
      by_cases htarget : target = .crop
      · subst htarget
        rw [step, setSelection_crop]
        refine ⟨hs.clean, fun which' => ?_⟩
        have hstore := congrFun
          (storeCrop_crops which (selectedRect r) s.dev) which'
        refine hstore.trans ?_
        by_cases hsame : which' = which
        · subst hsame
          simp [cropAfter, selectionOf]
        · rw [Function.update_of_ne hsame]
          simp [cropAfter, selectionOf, Ne.symm hsame]
      · rw [step, setSelection_other which htarget]
        refine ⟨hs.clean, fun which' => ?_⟩
        cases target <;> first | rfl | exact absurd rfl htarget
  | write id v =>
      by_cases hid : id = .hblank
      · subst hid
        exact ⟨hs.clean, fun _ => rfl⟩
      · rw [step, writeControl_after hid v hs.clean]
        exact ⟨hs.clean, fun which =>
          congrFun (writeEffect_crops id v s.dev) which⟩
  | sStream enable =>
      rw [step, sStream_performs binnedYOffset enable s hs.clean]
      have hfix := fixes_crops (sStream_fixes binnedYOffset enable) s.dev
      exact ⟨hs.clean, fun which => congrFun hfix which⟩
  | autosuspend lost =>
      rw [step, autosuspend_eq]
      dsimp only
      split
      · exact ⟨hs.clean, fun _ => rfl⟩
      · exact ⟨hs.clean, fun _ => rfl⟩

/-- What the effects of a call make of the driver, the call makes of it. -/
theorem step_dev {P : Device → Prop} {s : System} (hs : CropsInArray s)
    {c : Call} (hkeep : P s.dev)
    (hfmt : ∀ which w h, c = .setFmt which w h →
      UsableCrop (s.dev.crops which) → P (setFmtEffect w h which s.dev).1)
    (hcrop : ∀ which r, c = .setSelection which .crop r →
      P ((padState which).update (storeCrop (selectedRect r)) s.dev))
    (hwrite : ∀ id v, c = .write id v → id ≠ .hblank →
      P (writeEffect id v s.dev).1)
    (hstream : ∀ enable, P (sStreamEffect binnedYOffset enable s.dev).1)
    (hsuspend : P (suspended s.dev)) (hexpire : P (expired s.dev)) :
    P (step binnedYOffset s c).dev := by
  cases c with
  | setFmt which w h =>
      rcases setFmt_cases which w h hs with ⟨-, hrun⟩ | ⟨huse, fmt, hrun⟩
      · rw [step, hrun]
        exact hkeep
      · rw [step, hrun]
        exact hfmt which w h rfl huse
  | setSelection which target r =>
      by_cases htarget : target = .crop
      · subst htarget
        exact hcrop which r rfl
      · rw [step, setSelection_other which htarget]
        exact hkeep
  | write id v =>
      by_cases hid : id = .hblank
      · subst hid
        exact hkeep
      · rw [step, writeControl_after hid v hs.clean]
        exact hwrite id v rfl hid
  | sStream enable =>
      rw [step, sStream_performs binnedYOffset enable s hs.clean]
      exact hstream enable
  | autosuspend lost =>
      rw [step, autosuspend_eq]
      dsimp only
      split
      · exact hsuspend
      · exact hexpire

theorem step_cropsInArray {s : System} (hs : CropsInArray s) (c : Call) :
    CropsInArray (step binnedYOffset s c) := by
  obtain ⟨hclean, hcrops⟩ := step_crops binnedYOffset hs c
  refine ⟨hclean, fun which => ?_⟩
  rw [hcrops which, cropAfter]
  cases selectionOf which c with
  | none => exact hs.inArray which
  | some r => exact selectedRect_inArray r

/-- The crop rectangle of a context that nothing has selected: the active area,
or what the core allocates for a new file handle. -/
def initialCrop : Which → Rect
  | .active => defaultCrop
  | .try_ _ => PadState.zero.crop

theorem probe_crops (regs : ℕ → BitVec 8) :
    (probe regs).dev.crops = initialCrop := by
  rw [probe_eq]
  funext which
  cases which <;> rfl

theorem defaultCrop_inArray : InArray defaultCrop := by
  constructor <;> decide

theorem zeroCrop_inArray : InArray PadState.zero.crop := by
  constructor <;> decide

theorem probe_cropsInArray (regs : ℕ → BitVec 8) :
    CropsInArray (probe regs) := by
  constructor
  · rw [probe_eq]
    rfl
  · intro which
    rw [probe_crops]
    cases which with
    | active => exact defaultCrop_inArray
    | try_ i => exact zeroCrop_inArray

theorem run_cropsInArray (regs : ℕ → BitVec 8) (calls : List Call) :
    CropsInArray (run (step binnedYOffset) (probe regs) calls) := by
  refine run_induction (I := CropsInArray) ?_ (probe_cropsInArray regs) calls
  exact fun _ c hs => step_cropsInArray binnedYOffset hs c

/-- The last rectangle selected for a context in a run. -/
def lastSelection (which : Which) (calls : List Call) : Option RectRequest :=
  (calls.filterMap (selectionOf which)).getLast?

/-- The crop rectangle of a context is the last one selected for it. -/
theorem run_crops (which : Which) {s : System} (hs : CropsInArray s)
    (calls : List Call) :
    (run (step binnedYOffset) s calls).dev.crops which =
      ((lastSelection which calls).map selectedRect).getD
        (s.dev.crops which) := by
  induction calls generalizing s with
  | nil => rfl
  | cons c calls ih =>
      rw [run_cons, ih (step_cropsInArray binnedYOffset hs c),
        (step_crops binnedYOffset hs c).2 which]
      unfold cropAfter lastSelection
      cases hsel : selectionOf which c with
      | none => simp [hsel]
      | some r =>
          rw [List.filterMap_cons_some hsel, List.getLast?_cons]
          cases (calls.filterMap (selectionOf which)).getLast? <;> rfl

/-! ## When `ov5693_set_fmt` is safe -/

/-- The crop rectangle a format call works on is usable, and the call divides
by nothing that is zero. -/
def SafeFormat (s : System) (which : Which) (width height : BitVec 32) : Prop :=
  UsableCrop (s.dev.crops which) ∧
    (setFmt which width height s).1 ≠ .error .divideError

/-- The last selection for the context starts inside the array; without a
selection, the context is the active one. -/
def SelectionInside (which : Which) (calls : List Call) : Prop :=
  match lastSelection which calls with
  | some r => StartsInside r
  | none => which = .active

theorem usableCrop_initialCrop_iff (which : Which) :
    UsableCrop (initialCrop which) ↔ which = .active := by
  cases which with
  | active =>
      exact iff_of_true
        (defaultCrop_inArray.usable (by decide) (by decide)) rfl
  | try_ i =>
      refine iff_of_false ?_ (by simp)
      rintro ⟨-, hw, -⟩
      have hw : minCropWidth ≤ PadState.zero.crop.width := hw
      exact absurd hw (by decide)

/-- After every run from probe, a format call on a context is safe exactly if
the last selection for that context starts inside the array, or the context is
the active one and nothing was selected. -/
theorem safeFormat_iff (regs : ℕ → BitVec 8) (calls : List Call)
    (which : Which) (width height : BitVec 32) :
    SafeFormat (run (step binnedYOffset) (probe regs) calls) which width
        height ↔
      SelectionInside which calls := by
  have hs := run_cropsInArray binnedYOffset regs calls
  have husable : UsableCrop ((run (step binnedYOffset) (probe regs)
      calls).dev.crops which) ↔ SelectionInside which calls := by
    rw [run_crops binnedYOffset which (probe_cropsInArray regs) calls,
      probe_crops]
    unfold SelectionInside
    cases lastSelection which calls with
    | none => exact usableCrop_initialCrop_iff which
    | some r => exact usableCrop_selectedRect_iff r
  rw [← husable]
  constructor
  · exact And.left
  · intro huse
    refine ⟨huse, ?_⟩
    rcases setFmt_cases which width height hs with
      ⟨hnot, -⟩ | ⟨-, fmt, hrun⟩
    · exact absurd huse hnot
    · rw [hrun]
      simp

end Parameters

/-- A format call on a file handle just opened divides by zero. -/
theorem safeFormat_fails :
    ¬ ∀ (binnedYOffset : ℤ) (regs : ℕ → BitVec 8) (calls : List Call)
      (which : Which) (width height : BitVec 32),
      SafeFormat (run (step binnedYOffset) (probe regs) calls) which width
        height := by
  intro h
  have huse := (h 2 (fun _ => 0) [] (.try_ 0) 640 480).1
  rw [run_nil, probe_crops, usableCrop_initialCrop_iff] at huse
  cases huse

end Ov5693
end SurfaceCameras
