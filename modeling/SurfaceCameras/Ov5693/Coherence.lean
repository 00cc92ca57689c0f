import SurfaceCameras.Ov5693.CropArithmetic

/-!
# Format, binning and blanking of the OV5693 driver

`ov5693_set_fmt` keeps the output size, the binning flags and the two blanking
controls in step with the crop rectangle.  `ov5693_set_selection` is a second
writer of the output size and touches none of the others, so a change of the
crop size leaves them in step only in an unbinned mode that keeps its width and
has room for the new height.
-/

namespace SurfaceCameras
namespace Ov5693

open Kernel Device FixedWidth Runs

/-- The divisor of a binned axis. -/
def binningRatio (binning : Bool) : ℕ := if binning then 2 else 1

/-- The output size is the crop size over the binning, the horizontal blanking
fills the line, and the frame length fits its register. -/
structure Coherent (r : Readout) : Prop where
  width_eq : r.mode.format.width =
    r.mode.crop.width / binningRatio r.mode.binningX
  height_eq : r.mode.format.height =
    r.mode.crop.height / binningRatio r.mode.binningY
  hblank_eq : r.hblank = (fixedPpl : ℤ) - r.mode.format.width
  vts_fits : (r.mode.format.height : ℤ) + r.vblank ≤ timingMaxVts

/-- The part of the device that the vertical blanking and the exposure are not
in. -/
def Device.lineState (d : Device) : Mode × (ℕ → PadState) × ℤ × RuntimePm :=
  (d.mode, d.tries, d.hblank.cur, d.pm)

theorem sCtrl_lineState (id : CtrlId) :
    Fixes Device.lineState (sCtrlEffect id) :=
  (sCtrl_fixes id).map Device.lineState

theorem sCtrl_vblank (id : CtrlId) : Fixes vblankField.get (sCtrlEffect id) :=
  (sCtrl_fixes id).map Device.vblank

theorem hblankEffect_cur (hblank : ℤ) (d : Device) :
    (hblankEffect hblank d).1.hblank.cur =
      if d.hblank.cur = hblank ∨ d.pm.InUse then d.hblank.cur else hblank := by
  unfold hblankEffect
  by_cases h : d.hblank.cur = hblank ∨ d.pm.InUse
  · rw [if_pos h, if_pos h]
    rfl
  · rw [if_neg h, if_neg h]
    exact hblank_validateNew hblank d.hblank

/-- The two steps of a format call on the vertical blanking. -/
def vblankEffect (height : ℕ) : Effect Device :=
  (modifyRangeEffect vblankField (sCtrlEffect .vblank) timingMinVts
      (timingMaxVts - height) 1 (2078 - height)).seq
    ((Effect.silent (vblankField.update fun x =>
        { x with val := 2078 - height })).seq
      (setCtrlEffect vblankField (sCtrlEffect .vblank)))

theorem vblankEffect_lineState (height : ℕ) :
    Fixes Device.lineState (vblankEffect height) := by
  have hupdate : ∀ g d, Device.lineState (vblankField.update g d) =
      d.lineState := fun _ _ => rfl
  have hcb := sCtrl_lineState .vblank
  exact Fixes.seq (Fixes.modifyRange hupdate hcb _ _ _ _)
    (Fixes.seq (Fixes.silent (hupdate _)) (Fixes.setCtrl hupdate hcb))

/-- A format call leaves the vertical blanking as it is created for the new
height. -/
theorem vblankEffect_get {height : ℕ} (hle : height ≤ 1956) (d : Device) :
    (vblankEffect height d).1.vblank =
      Ctrl.newStd timingMinVts (timingMaxVts - height) 1 (2078 - height) := by
  have hr : Ctrl.RangeOk timingMinVts (timingMaxVts - height) 1
      (2078 - height) := by
    simp only [Ctrl.RangeOk, timingMinVts, timingMaxVts]
    omega
  have hcb := sCtrl_vblank .vblank
  have hrange := get_modifyRangeEffect hcb hr d
  have hset := get_setCtrlEffect (c := vblankField) hcb
    (vblankField.update (fun x => { x with val := 2078 - height })
      (modifyRangeEffect vblankField (sCtrlEffect .vblank) timingMinVts
        (timingMaxVts - height) 1 (2078 - height) d).1)
  rw [Field.get_update, hrange] at hset
  refine hset.trans ?_
  simp only [Ctrl.applied, Ctrl.withRange, Ctrl.newStd,
    clamp_of_mem hr.2.2.1 hr.2.2.2]

theorem formatEffect_eq (hratio vratio width height : ℕ) (d : Device) :
    (formatEffect hratio vratio width height d).1 =
      (limitExposureEffect (2078 - integrationTimeMargin)
        (hblankEffect (fixedPpl - width)
          (vblankEffect height (formatMode hratio vratio d)).1).1).1 := by
  simp only [formatEffect, vblankEffect, Effect.seq_fst, Effect.silent_fst]

/-- What a format call leaves of the readout. -/
theorem formatEffect_readout (hratio vratio width : ℕ) {height : ℕ}
    (hle : height ≤ 1956) (d : Device) :
    (formatEffect hratio vratio width height d).1.readout =
      { mode := (formatMode hratio vratio d).mode
        tries := d.tries
        hblank :=
          if d.hblank.cur = (fixedPpl : ℤ) - width ∨ d.pm.InUse then
            d.hblank.cur
          else
            fixedPpl - width
        vblank := 2078 - height } := by
  have hline := vblankEffect_lineState height (formatMode hratio vratio d)
  have hvblank := congrArg Ctrl.cur
    (vblankEffect_get hle (formatMode hratio vratio d))
  rw [formatEffect_eq, limitExposure_readout]
  revert hline hvblank
  generalize (vblankEffect height (formatMode hratio vratio d)).1 = d₁
  intro hline hvblank
  simp only [Device.lineState, Prod.mk.injEq] at hline
  obtain ⟨hmode, htries, hcur, hpm⟩ := hline
  have hother : (hblankEffect (fixedPpl - width) d₁).1.readout =
      { mode := d₁.mode
        tries := d₁.tries
        hblank := (hblankEffect (fixedPpl - width) d₁).1.hblank.cur
        vblank := d₁.vblank.cur } := by
    unfold hblankEffect
    dsimp only
    split <;> rfl
  rw [hother, hblankEffect_cur, hmode, htries, hcur, hpm, hvblank]
  rfl

/-! ## One call -/

theorem binningRatio_of_ratio {r : ℕ} (h : r = 1 ∨ r = 2) :
    binningRatio (decide (1 < r)) = r := by
  rcases h with rfl | rfl <;> rfl

/-- The readout after a format call on the active state. -/
def formattedReadout (hratio vratio : ℕ) (d : Device) : Readout :=
  { mode :=
      { crop := d.mode.crop
        format := MbusFramefmt.sized (d.mode.crop.width / hratio)
          (d.mode.crop.height / vratio) d.mode.format
        binningX := decide (1 < hratio)
        binningY := decide (1 < vratio)
        incXOdd := if 1 < hratio then 3 else 1
        incYOdd := if 1 < vratio then 3 else 1
        vts := 2078 }
    tries := d.tries
    hblank :=
      if d.hblank.cur = (fixedPpl : ℤ) - (d.mode.crop.width / hratio : ℕ) ∨
          d.pm.InUse then
        d.hblank.cur
      else
        fixedPpl - (d.mode.crop.width / hratio : ℕ)
    vblank := 2078 - (d.mode.crop.height / vratio : ℕ) }

theorem activeFmtEffect_readout (w h : BitVec 32) {d : Device}
    (hh : 2 ≤ d.mode.crop.height) (hmax : d.mode.crop.height ≤ 1956) :
    (activeFmtEffect w h d).1.readout =
      formattedReadout (ratioOf d.mode.crop.width minCropWidth w)
        (ratioOf d.mode.crop.height minCropHeight h) d :=
  formatEffect_readout _ _ _
    (div_ratioOf_bounds minCropHeight h hh hmax).2
    ((padState .active).update (formattedPad w h) d)

/-- Writing the vertical blanking applies the clamped value. -/
theorem writeVblank_readout (v : ℤ) (d : Device) :
    (writeEffect .vblank v d).1.readout =
      { d.readout with
        vblank := clamp v d.vblank.minimum d.vblank.maximum } := by
  have hupdate : ∀ g d, Device.lineState (vblankField.update g d) =
      d.lineState := fun _ _ => rfl
  have hline : (writeEffect .vblank v d).1.lineState = d.lineState :=
    Fixes.writeCtrl hupdate (sCtrl_lineState .vblank) _ _ _
  have hvblank := get_setCtrlEffect (c := vblankField) (sCtrl_vblank .vblank)
    (vblankField.update (fun c => { c with val := v }) d)
  rw [Field.get_update] at hvblank
  have hcur : (writeEffect .vblank v d).1.vblank.cur =
      clamp v d.vblank.minimum d.vblank.maximum := congrArg Ctrl.cur hvblank
  revert hline hcur
  generalize (writeEffect .vblank v d).1 = d₁
  intro hline hcur
  simp only [Device.lineState, Prod.mk.injEq] at hline
  obtain ⟨hmode, htries, hhblank, -⟩ := hline
  simp only [Device.readout, hmode, htries, hhblank, hcur]

section Parameters

variable (binnedYOffset : ℤ)

/-- The calls that leave the readout alone, up to the open file handles. -/
def KeepsReadout : Call → Prop
  | .setFmt .active _ _ | .setSelection .active .crop _ | .write .vblank _ =>
      False
  | _ => True

theorem keepsReadout_cases (c : Call) :
    KeepsReadout c ∨ (∃ w h, c = .setFmt .active w h) ∨
      (∃ r, c = .setSelection .active .crop r) ∨
        ∃ v, c = .write .vblank v := by
  by_cases hkeep : KeepsReadout c
  · exact Or.inl hkeep
  · refine Or.inr ?_
    unfold KeepsReadout at hkeep
    split at hkeep
    · next w h => exact Or.inl ⟨w, h, rfl⟩
    · next r => exact Or.inr (Or.inl ⟨r, rfl⟩)
    · next v => exact Or.inr (Or.inr ⟨v, rfl⟩)
    · exact absurd trivial hkeep

theorem step_readout {s : System} (hs : CropsInArray s) {c : Call}
    (hc : KeepsReadout c) : ∃ tries,
      (step binnedYOffset s c).dev.readout =
        { s.dev.readout with tries := tries } := by
  apply step_dev binnedYOffset (P := fun d => ∃ tries,
    d.readout = { s.dev.readout with tries := tries }) hs
  · exact ⟨_, rfl⟩
  · rintro which w h rfl _
    cases which with
    | active => exact hc.elim
    | try_ i => exact ⟨_, rfl⟩
  · rintro which r rfl
    cases which with
    | active => exact hc.elim
    | try_ i => exact ⟨_, rfl⟩
  · rintro id v rfl hid
    have hv : id ≠ .vblank := by
      rintro rfl
      exact hc
    exact ⟨_, write_fixes hid hv v s.dev⟩
  · exact fun enable => ⟨_, sStream_fixes binnedYOffset enable s.dev⟩
  · exact ⟨_, rfl⟩
  · exact ⟨_, rfl⟩

end Parameters

end Ov5693
end SurfaceCameras
