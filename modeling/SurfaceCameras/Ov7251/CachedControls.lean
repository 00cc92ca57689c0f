import SurfaceCameras.Support.MaskedWrites
import SurfaceCameras.Kernel.Histories
import SurfaceCameras.Ov7251.Frames

/-!
# Controls of the OV7251 that are a bit of a register

The two flips and the test pattern are one bit each of a register of which the
driver keeps a copy.  Bringing such a control to the sensor changes its register
and its copy alike, and only if the write succeeds; every other operation of
the driver leaves them alone.
-/

namespace SurfaceCameras
namespace Ov7251

open Kernel Device Prog MaskedWrites

/-- The controls for which the driver keeps a copy of the register. -/
inductive CachedCtrl where
  | hflip
  | vflip
  | testPattern
  deriving DecidableEq, Repr

/-- The register, its copy, the control that is a bit of it, and the references
of the device. -/
structure CachedView where
  register : BitVec 8
  copy : BitVec 8
  ctrl : Ctrl
  pm : RuntimePm

namespace CachedCtrl

def id : CachedCtrl → CtrlId
  | .hflip => .hflip
  | .vflip => .vflip
  | .testPattern => .testPattern

def reg : CachedCtrl → ℕ
  | .hflip => 0x3821
  | .vflip => 0x3820
  | .testPattern => 0x5e00

def bit : CachedCtrl → BitVec 8
  | .hflip => 0x04
  | .vflip => 0x04
  | .testPattern => 0x80

def copy : CachedCtrl → Field Device (BitVec 8)
  | .hflip => timingFormat2Field
  | .vflip => timingFormat1Field
  | .testPattern => preIsp00Field

def view (k : CachedCtrl) (d : Device) : CachedView where
  register := d.bus.regs k.reg
  copy := k.copy.get d
  ctrl := (ctrlField k.id).get d
  pm := d.pm

/-- Register and copy after a value has been brought to the sensor. -/
def written (k : CachedCtrl) (v : ℤ) (w : CachedView) : CachedView :=
  { w with
    register := flagged k.bit (v ≠ 0) w.copy
    copy := flagged k.bit (v ≠ 0) w.copy }

/-- The value being set is brought to a sensor in use. -/
def brought (k : CachedCtrl) (w : CachedView) : CachedView :=
  if w.pm.InUse then k.written w.ctrl.val w else w

theorem ctrlAddrs_id (k : CachedCtrl) : ctrlAddrs k.id = [k.reg] := by
  cases k <;> rfl

theorem writeCtrl_id (k : CachedCtrl) (par : Params) :
    writeCtrl par k.id = setCachedBit k.copy k.reg k.bit := by
  cases k <;> rfl

theorem view_outcomes (k : CachedCtrl) (d : Device) (os : List Bool) :
    k.view (busField.update (fun b => { b with faults := os }) d) =
      k.view d := by
  cases k <;> rfl

theorem view_ctrl (k : CachedCtrl) (d : Device) (f : Ctrl → Ctrl) :
    k.view ((ctrlField k.id).update f d) =
      { k.view d with ctrl := f (k.view d).ctrl } := by
  cases k <;> rfl

theorem view_other (k : CachedCtrl) (d : Device) {j : CtrlId} (hj : j ≠ k.id)
    (f : Ctrl → Ctrl) : k.view ((ctrlField j).update f d) = k.view d := by
  cases k <;> cases j <;> first | rfl | exact absurd rfl hj

theorem view_pm (k : CachedCtrl) (d : Device) (f : RuntimePm → RuntimePm) :
    k.view (pmField.update f d) =
      { k.view d with pm := f (k.view d).pm } := by
  cases k <;> rfl

theorem view_store (k : CachedCtrl) (d : Device) (v : BitVec 8) :
    k.view (busField.update (fun b => b.store k.reg [v]) d) =
      { k.view d with register := v } := by
  have hself := Function.update_self k.reg v d.bus.regs
  cases k <;> exact congrArg (fun r => CachedView.mk r _ _ _) hself

theorem view_copy (k : CachedCtrl) (d : Device) (v : BitVec 8) :
    k.view (k.copy.set d v) = { k.view d with copy := v } := by
  cases k <;> rfl

end CachedCtrl

/-! ## Bringing the control to the sensor -/

section Own

variable (k : CachedCtrl) {w : CachedView}

theorem view_admitsBus :
    AdmitsBus busField (Frame.fixing k.view) (· ∉ ctrlAddrs k.id) := by
  apply registers_admits
  intro d b h
  have hreg := h k.reg (k.ctrlAddrs_id ▸ List.mem_cons_self)
  cases k <;> exact congrArg (fun r => CachedView.mk r _ _ _) hreg

theorem view_of_stays {α : Type} {p : Prog Device Fault α}
    (hp : Stays (Frame.fixing k.view) p) {P : CachedView → Prop} :
    Triple (fun d => P (k.view d)) p (fun _ d => P (k.view d))
      (fun _ d => P (k.view d)) := by
  apply (hp.triple (P := fun d => P (k.view d)) ?_).consequence
    (fun _ h => h) (fun _ _ h => h) fun _ _ h => h.1
  intro d d' hview hd
  have hview : k.view d' = k.view d := hview
  rwa [hview]

/-- A write that fails changes neither the register nor the copy. -/
theorem setCachedBit_view (v : ℤ) :
    Triple (fun d => k.view d = w) (setCachedBit k.copy k.reg k.bit v)
      (fun _ d => k.view d = k.written v w) (fun _ d => k.view d = w) := by
  apply Triple.gets_bind
  intro old
  apply Triple.with_fact (c := w.copy = old)
  · rintro d ⟨rfl, rfl⟩
    rfl
  rintro rfl
  apply Triple.bind (Q := fun _ d => k.view d =
    { w with register := flagged k.bit (v ≠ 0) w.copy })
  · apply Triple.bind (Q := fun _ d => k.view d = w)
    · exact (view_of_stays k (P := (· = w))
        (transfer_stays (view_admitsBus k))).strengthenPre fun _ h => h.1
    · intro _
      apply Triple.modify
      rintro d rfl
      exact k.view_store d _
  · intro _
    apply Triple.modify
    intro d hd
    rw [k.view_copy, hd]
    rfl

theorem put_view {E : Fault → Device → Prop} :
    Triple (fun d => k.view d = w) (pmRuntimePut pmField)
      (fun _ d => k.view d = { w with pm := w.pm.put }) E := by
  apply Triple.modify
  rintro d rfl
  exact k.view_pm d _

/-- Applying the control takes a reference for the time of the write. -/
theorem applyCtrl_view (par : Params) :
    Triple (fun d => k.view d = w) (applyCtrl par k.id)
      (fun _ d => k.view d = k.brought w) (fun _ d => k.view d = w) := by
  rintro d rfl
  by_cases huse : d.pm.InUse
  · have hput : (k.view d).pm.get.put = (k.view d).pm :=
      RuntimePm.put_get_of_inUse huse
    have hbrought : k.brought (k.view d) =
        k.written (k.view d).ctrl.val (k.view d) := if_pos huse
    have hctrl : (ctrlField k.id).get (pmField.update RuntimePm.get d) =
        (k.view d).ctrl := congrArg CachedView.ctrl (k.view_pm d RuntimePm.get)
    rw [applyCtrl, Prog.bind_ok (pmRuntimeGetIfInUse_of_inUse pmField huse),
      if_pos rfl, Prog.bind_ok (Prog.gets_apply _ _), k.writeCtrl_id, hbrought,
      hctrl]
    refine Triple.tryFinally (setCachedBit_view k (w :=
      { k.view d with pm := (k.view d).pm.get }) _) ?_ ?_ ?_ _ (k.view_pm d _)
    · intro _
      apply (put_view k).consequence (fun _ h => h) ?_ fun _ _ h => h
      intro _ d' hd'
      rw [hd', CachedCtrl.written, CachedCtrl.written, hput]
    · intro _ _
      apply (put_view k).consequence (fun _ h => h) ?_ fun _ _ h => h
      intro _ d' hd'
      rw [hd', hput]
    · intro _ _ hskip
      cases hskip
  · have hskip : k.brought (k.view d) = k.view d := if_neg huse
    rw [applyCtrl, Prog.bind_ok (pmRuntimeGetIfInUse_of_not pmField huse),
      hskip]
    rfl

end Own

/-! ## The other operations -/

section Others

variable (k : CachedCtrl) (par : Params)

theorem view_hold : AdmitsHold pmField (Frame.fixing k.view) := by
  intro d d' huse h
  have hview : k.view d' = k.view (pmField.update RuntimePm.get d) := h
  have hput : (k.view d).pm.get.put = (k.view d).pm :=
    RuntimePm.put_get_of_inUse huse
  have hkept : k.view (pmField.update RuntimePm.put d') = k.view d := by
    rw [k.view_pm, hview, k.view_pm, hput]
  exact hkept

theorem view_copies {j : CtrlId} (hj : j ≠ k.id) :
    ∀ c ∈ copyFields j, ∀ d v, k.view (c.set d v) = k.view d := by
  intro c hc d v
  cases j with
  | hflip =>
      obtain rfl := List.mem_singleton.mp hc
      cases k <;> first | rfl | exact absurd rfl hj
  | vflip =>
      obtain rfl := List.mem_singleton.mp hc
      cases k <;> first | rfl | exact absurd rfl hj
  | testPattern =>
      obtain rfl := List.mem_singleton.mp hc
      cases k <;> first | rfl | exact absurd rfl hj
  | exposure | analogueGain | vblank => exact absurd hc List.not_mem_nil

theorem applyCtrl_other {j : CtrlId} (hj : j ≠ k.id) :
    Stays (Frame.fixing k.view) (applyCtrl par j) :=
  held_stays (view_hold k) _ fun ctrl => writeCtrl_stays_of_copies
    (view_admitsBus k) par (view_copies k hj) (ctrlAddrs_disjoint hj) ctrl.val

section Setting

variable {j : CtrlId} (hj : j ≠ k.id) {cb : Prog Device Fault Unit}
  (hcb : Stays (Frame.fixing k.view) cb)
include hj hcb

theorem setOther_stays (v : ℤ) :
    Stays (Frame.fixing k.view) (v4l2CtrlSCtrl (ctrlField j) cb v) :=
  v4l2CtrlSCtrl_stays (fun d => k.view_other d hj _)
    (fun d => k.view_other d hj _) hcb fun d => k.view_other d hj _

theorem rangeOther_stays (lo hi : ℤ) (st : ℕ) (dflt : ℤ) :
    Stays (Frame.fixing k.view)
      (v4l2CtrlModifyRange (ctrlField j) cb lo hi st dflt) := by
  intro d₀
  apply (v4l2CtrlModifyRange_stays (P := fun _ => True)
    (fun d => k.view_other d hj _) (fun d => k.view_other d hj _) hcb
      fun d _ => k.view_other d hj _).strengthenPre
  exact fun _ hd => ⟨hd, trivial⟩

end Setting

theorem sCtrl_other {j : CtrlId} (hj : j ≠ k.id) :
    Stays (Frame.fixing k.view) (sCtrl par j) := by
  have hexposure : CtrlId.exposure ≠ k.id := by cases k <;> decide
  have hrange := rangeOther_stays k hexposure
    (applyCtrl_other k par hexposure)
  refine (Keeps.when ?_).bind fun _ => applyCtrl_other k par hj
  refine (Keeps.gets _).bind fun height => (Keeps.gets _).bind fun vblank => ?_
  refine (Keeps.gets _).bind fun exposure => ?_
  exact (hrange _ _ _ _).tryCatch fun _ _ => Keeps.pure ()

theorem writeControl_other {j : CtrlId} (hj : j ≠ k.id) (v : ℤ) :
    Stays (Frame.fixing k.view) (writeControl par j v) :=
  v4l2SCtrl_stays (fun d => k.view_other d hj _)
    (fun d => k.view_other d hj _) (sCtrl_other k par hj) (ctrlType j) v
      fun _ d => k.view_other d hj _

theorem resetExposure_other (mode : ModeInfo) :
    Stays (Frame.fixing k.view) (resetExposure par mode) := by
  have hexposure : CtrlId.exposure ≠ k.id := by cases k <;> decide
  have hgain : CtrlId.analogueGain ≠ k.id := by cases k <;> decide
  refine (rangeOther_stays k hexposure (sCtrl_other k par hexposure)
    _ _ _ _).bind fun _ => ?_
  refine (setOther_stays k hexposure (sCtrl_other k par hexposure) _).bind
    fun _ => ?_
  exact setOther_stays k hgain (sCtrl_other k par hgain) _

/-- Selecting a mode has nothing to do with the control. -/
theorem setFormat_other (nearest : ℕ → ℕ → Fin 3) (w h : ℕ) :
    Stays (Frame.fixing k.view) (setFormat par nearest .active w h) := by
  have hvblank : CtrlId.vblank ≠ k.id := by cases k <;> decide
  have hpad : ∀ (d : Device) p, k.view { d with pad := p } = k.view d := by
    cases k <;> exact fun _ _ => rfl
  have hmode : ∀ (d : Device) n,
      k.view { d with currentMode := n } = k.view d := by
    cases k <;> exact fun _ _ => rfl
  have hactive : Stays (Frame.fixing k.view)
      (setActiveMode par (nearest w h)) := by
    refine (resetExposure_other k par _).bind fun _ => ?_
    refine (rangeOther_stays k hvblank (sCtrl_other k par hvblank)
      _ _ _ _).bind fun _ => ?_
    exact Keeps.modify fun d => hmode d _
  refine (Keeps.modify fun d => hpad d _).bind fun _ => ?_
  refine hactive.bind fun _ => ?_
  exact (Keeps.modify fun d => hpad d _).bind fun _ => Keeps.gets _

theorem setFrameInterval_other (t : Fract) :
    Stays (Frame.fixing k.view) (setFrameInterval par .active t) := by
  have hmode : ∀ (d : Device) n,
      k.view { d with currentMode := n } = k.view d := by
    cases k <;> exact fun _ _ => rfl
  refine (Keeps.gets _).bind fun current => ?_
  refine (findModeByIval_stays par _ t).bind fun n => ?_
  refine (Keeps.when ?_).bind fun _ => Keeps.gets _
  exact (resetExposure_other k par _).bind fun _ =>
    Keeps.modify fun d => hmode d _

end Others

end Ov7251
end SurfaceCameras
