import SurfaceCameras.Kernel.Histories
import SurfaceCameras.Ov7251.Frames

/-!
# Controls of the OV7251 that are a number in registers of their own

The exposure, the gain and the frame length are written to registers that hold
nothing else.  Bringing such a control to the sensor changes its registers only
if the write succeeds.  The exposure is also brought to the sensor when the
vertical blanking changes, and an error of that write is dropped; so what its
registers show is the value that the control was last given with success.
-/

namespace SurfaceCameras
namespace Ov7251

open Kernel Device Prog

/-- The controls whose value is spread over registers of their own. -/
inductive WordCtrl where
  | exposure
  | gain
  | vblank
  deriving DecidableEq, Repr

/-- The registers, the control that is written to them, and the references of
the device. -/
structure WordView where
  cells : List (BitVec 8)
  ctrl : Ctrl
  pm : RuntimePm

namespace WordCtrl

def id : WordCtrl → CtrlId
  | .exposure => .exposure
  | .gain => .analogueGain
  | .vblank => .vblank

/-- The first register. -/
def reg : WordCtrl → ℕ
  | .exposure => 0x3500
  | .gain => 0x350a
  | .vblank => 0x380e

/-- The bytes a value is cut into. -/
def bytes : WordCtrl → ℤ → List (BitVec 8)
  | .exposure, v =>
      let v := BitVec.ofInt 32 v
      [((v &&& 0xf000) >>> 12).setWidth 8, ((v &&& 0x0ff0) >>> 4).setWidth 8,
        ((v &&& 0x000f) <<< 4).setWidth 8]
  | .gain, v =>
      let v := BitVec.ofInt 32 v
      [((v &&& 0x0300) >>> 8).setWidth 8, (v &&& 0xff).setWidth 8]
  | .vblank, v =>
      let vts := BitVec.ofInt 32 (480 + v)
      [((vts &&& 0xff00) >>> 8).setWidth 8, (vts &&& 0x00ff).setWidth 8]

def view (k : WordCtrl) (d : Device) : WordView where
  cells := (ctrlAddrs k.id).map d.bus.regs
  ctrl := (ctrlField k.id).get d
  pm := d.pm

/-- The registers show the value of the control, and the sensor is in use. -/
def Shows (k : WordCtrl) (d : Device) : Prop :=
  (k.view d).pm.InUse ∧ (k.view d).cells = k.bytes (k.view d).ctrl.cur

/-- The registers show the value the control is being given. -/
def Brought (k : WordCtrl) (d : Device) : Prop :=
  (k.view d).pm.InUse ∧ (k.view d).cells = k.bytes (k.view d).ctrl.val

theorem view_ctrl (k : WordCtrl) (d : Device) (f : Ctrl → Ctrl) :
    k.view ((ctrlField k.id).update f d) =
      { k.view d with ctrl := f (k.view d).ctrl } := by
  cases k <;> rfl

theorem view_other (k : WordCtrl) (d : Device) {j : CtrlId} (hj : j ≠ k.id)
    (f : Ctrl → Ctrl) : k.view ((ctrlField j).update f d) = k.view d := by
  cases k <;> cases j <;> first | rfl | exact absurd rfl hj

theorem view_pm (k : WordCtrl) (d : Device) (f : RuntimePm → RuntimePm) :
    k.view (pmField.update f d) =
      { k.view d with pm := f (k.view d).pm } := by
  cases k <;> rfl

theorem view_store (k : WordCtrl) (d : Device) (v : ℤ) :
    k.view (busField.update (fun b => b.store k.reg (k.bytes v)) d) =
      { k.view d with cells := k.bytes v } := by
  cases k <;> rfl

end WordCtrl

/-! ## Bringing the control to the sensor -/

section Own

variable (k : WordCtrl) (par : Params) {w : WordView}

theorem wordView_admitsBus :
    AdmitsBus busField (Frame.fixing k.view) (· ∉ ctrlAddrs k.id) := by
  apply registers_admits
  intro d b h
  have hcells : (ctrlAddrs k.id).map b.regs = (ctrlAddrs k.id).map d.bus.regs :=
    List.map_congr_left h
  cases k <;> exact congrArg (fun cells => WordView.mk cells _ _) hcells

theorem wordView_of_stays {α : Type} {p : Prog Device Fault α}
    (hp : Stays (Frame.fixing k.view) p) {P : WordView → Prop} :
    Triple (fun d => P (k.view d)) p (fun _ d => P (k.view d))
      (fun _ d => P (k.view d)) := by
  apply (hp.triple (P := fun d => P (k.view d)) ?_).consequence
    (fun _ h => h) (fun _ _ h => h) fun _ _ h => h.1
  intro d d' hview hd
  have hview : k.view d' = k.view d := hview
  rwa [hview]

/-- A write that fails leaves the registers. -/
theorem writeWord_view (v : ℤ) :
    Triple (fun d => k.view d = w) (writeSeqRegs k.reg (k.bytes v))
      (fun _ d => k.view d = { w with cells := k.bytes v })
      (fun _ d => k.view d = w) := by
  apply Triple.ite
  · exact fun _ => Triple.raise fun _ h => h
  intro _
  apply Triple.bind (wordView_of_stays k (P := (· = w))
    (transfer_stays (wordView_admitsBus k)))
  intro _
  apply Triple.modify
  rintro d rfl
  exact k.view_store d v

theorem writeCtrl_view (v : ℤ) :
    Triple (fun d => k.view d = w) (writeCtrl par k.id v)
      (fun _ d => k.view d = { w with cells := k.bytes v })
      (fun _ d => k.view d = w) := by
  cases k with
  | exposure => exact writeWord_view .exposure v
  | gain => exact writeWord_view .gain v
  | vblank =>
      apply Triple.gets_bind
      intro height
      apply Triple.with_fact (c := height = 480)
      · rintro d ⟨-, rfl⟩
        exact d.height_eq par
      · rintro rfl
        exact (writeWord_view .vblank v).strengthenPre fun _ h => h.1

theorem putWord_view {E : Fault → Device → Prop} :
    Triple (fun d => k.view d = w) (pmRuntimePut pmField)
      (fun _ d => k.view d = { w with pm := w.pm.put }) E := by
  apply Triple.modify
  rintro d rfl
  exact k.view_pm d _

/-- Applying the control takes a reference for the time of the write. -/
theorem applyWord_view (huse : w.pm.InUse) :
    Triple (fun d => k.view d = w) (applyCtrl par k.id)
      (fun _ d => k.view d = { w with cells := k.bytes w.ctrl.val })
      (fun _ d => k.view d = w) := by
  rintro d rfl
  have hinUse : (pmField.get d).InUse := huse
  have hput : (k.view d).pm.get.put = (k.view d).pm :=
    RuntimePm.put_get_of_inUse huse
  have hctrl : (ctrlField k.id).get (pmField.update RuntimePm.get d) =
      (k.view d).ctrl := congrArg WordView.ctrl (k.view_pm d RuntimePm.get)
  rw [applyCtrl, Prog.bind_ok (pmRuntimeGetIfInUse_of_inUse pmField hinUse),
    if_pos rfl, Prog.bind_ok (Prog.gets_apply _ _), hctrl]
  refine Triple.tryFinally (writeCtrl_view k par (w :=
    { k.view d with pm := (k.view d).pm.get }) _) ?_ ?_ ?_ _ (k.view_pm d _)
  · intro _
    apply (putWord_view k).consequence (fun _ h => h) ?_ fun _ _ h => h
    intro _ d' hd'
    rw [hd', hput]
  · intro _ _
    apply (putWord_view k).consequence (fun _ h => h) ?_ fun _ _ h => h
    intro _ d' hd'
    rw [hd', hput]
  · intro _ _ hskip
    cases hskip

/-- On a sensor that shows the control, a write that fails changes nothing. -/
theorem applyWord_shows :
    Triple k.Shows (applyCtrl par k.id) (fun _ => k.Brought)
      (fun _ => k.Shows) := by
  intro d hd
  have hrun := applyWord_view k par hd.1 d rfl
  revert hrun
  rcases applyCtrl par k.id d with ⟨_ | _, d'⟩
  · intro hview
    have hview : k.view d' = k.view d := hview
    have hkept : k.Shows d' := by
      rw [WordCtrl.Shows, hview]
      exact hd
    exact hkept
  · intro hview
    have hview : k.view d' =
        { k.view d with cells := k.bytes (k.view d).ctrl.val } := hview
    have hbrought : k.Brought d' := by
      rw [WordCtrl.Brought, hview]
      exact ⟨hd.1, rfl⟩
    exact hbrought

/-! ## The other operations -/

theorem wordView_hold : AdmitsHold pmField (Frame.fixing k.view) := by
  intro d d' huse h
  have hview : k.view d' = k.view (pmField.update RuntimePm.get d) := h
  have hput : (k.view d).pm.get.put = (k.view d).pm :=
    RuntimePm.put_get_of_inUse huse
  have hkept : k.view (pmField.update RuntimePm.put d') = k.view d := by
    rw [k.view_pm, hview, k.view_pm, hput]
  exact hkept

/-- The copies the driver keeps have nothing to do with these controls. -/
theorem wordView_copies (j : CtrlId) :
    ∀ c ∈ copyFields j, ∀ d v, k.view (c.set d v) = k.view d := by
  intro c hc d v
  cases j with
  | hflip =>
      obtain rfl := List.mem_singleton.mp hc
      cases k <;> rfl
  | vflip =>
      obtain rfl := List.mem_singleton.mp hc
      cases k <;> rfl
  | testPattern =>
      obtain rfl := List.mem_singleton.mp hc
      cases k <;> rfl
  | exposure | analogueGain | vblank => exact absurd hc List.not_mem_nil

theorem applyWord_other {j : CtrlId} (hj : j ≠ k.id) :
    Stays (Frame.fixing k.view) (applyCtrl par j) :=
  held_stays (wordView_hold k) _ fun ctrl => writeCtrl_stays_of_copies
    (wordView_admitsBus k) par (wordView_copies k j) (ctrlAddrs_disjoint hj)
      ctrl.val

/-- A new range of the exposure only concerns the exposure. -/
theorem adjustWord_other (hk : k ≠ .exposure) :
    Stays (Frame.fixing k.view) (adjustExposureRange par) := by
  have hne : CtrlId.exposure ≠ k.id := by
    revert hk
    cases k <;> decide
  refine (Keeps.gets _).bind fun height => (Keeps.gets _).bind fun vblank => ?_
  refine (Keeps.gets _).bind fun exposure => ?_
  apply Keeps.tryCatch (S := fun _ => True)
  · intro d₀
    apply (v4l2CtrlModifyRange_stays (P := fun _ => True)
      (fun d => k.view_other d hne _) (fun d => k.view_other d hne _)
        (applyWord_other k par hne)
          fun d _ => k.view_other d hne _).strengthenPre
    exact fun _ hd => ⟨hd, trivial⟩
  · exact fun _ _ => Keeps.pure ()

end Own

/-! ## Setting the controls up -/

section Setup

variable (par : Params)

/-- Where the exposure is brought to the sensor again, its registers show it
whether or not the write succeeds. -/
theorem adjustExposureRange_shows :
    Triple WordCtrl.exposure.Shows (adjustExposureRange par)
      (fun _ => WordCtrl.exposure.Shows) (fun _ _ => False) := by
  apply Triple.gets_bind
  intro height
  apply Triple.gets_bind
  intro vblank
  apply Triple.gets_bind
  intro exposure
  apply Triple.tryCatch (J := fun _ => WordCtrl.exposure.Shows)
  · apply v4l2CtrlModifyRange_triple (S := WordCtrl.exposure.Shows)
      (T := WordCtrl.exposure.Brought)
    · exact fun _ _ hd => hd.1.1.1
    · exact fun _ _ hd => hd.1.1.1
    · exact fun _ hd _ => hd
    · exact applyWord_shows .exposure par
    · exact fun _ hd => hd
  · exact fun _ => Triple.pure fun _ hd => hd

variable (k : WordCtrl)

/-- The callback, seen from the registers of one control. -/
theorem sCtrlWord_other {j : CtrlId} (hj : j ≠ k.id) :
    Triple k.Shows (sCtrl par j) (fun _ => k.Shows) (fun _ _ => True) := by
  have hkeep : ∀ {p : Prog Device Fault Unit}, Stays (Frame.fixing k.view) p →
      Triple k.Shows p (fun _ => k.Shows) (fun _ _ => True) := by
    intro p hp
    exact (wordView_of_stays k hp (P := fun w => w.pm.InUse ∧
      w.cells = k.bytes w.ctrl.cur)).consequence (fun _ hd => hd)
        (fun _ _ hd => hd) fun _ _ _ => trivial
  apply Triple.bind (Q := fun _ => k.Shows)
  · apply Triple.when
    · intro _
      by_cases hk : k = .exposure
      · rw [hk]
        exact (adjustExposureRange_shows par).consequence (fun _ hd => hd)
          (fun _ _ hd => hd) fun _ _ _ => trivial
      · exact hkeep (adjustWord_other k par hk)
    · exact fun _ _ hd => hd
  · exact fun _ => hkeep (applyWord_other k par hj)

theorem setupWord_other {j : CtrlId} (hj : j ≠ k.id) :
    Triple k.Shows
      (Prog.modify ((ctrlField j).update Ctrl.curToNew) >>= fun _ => sCtrl par j)
      (fun _ => k.Shows) (fun _ _ => True) := by
  apply Triple.bind (Q := fun _ => k.Shows)
  · apply Triple.modify
    intro d hd
    rw [WordCtrl.Shows, k.view_other d hj]
    exact hd
  · exact fun _ => sCtrlWord_other par k hj

/-- Setting up the control itself. -/
theorem setupWord_own :
    Triple (fun d => d.pm.InUse)
      (Prog.modify ((ctrlField k.id).update Ctrl.curToNew) >>= fun _ =>
        sCtrl par k.id)
      (fun _ => k.Shows) (fun _ _ => True) := by
  intro d huse
  let w : WordView := { k.view d with ctrl := (k.view d).ctrl.curToNew }
  have hw : w.pm.InUse := huse
  have hnew : Triple (fun d => k.view d = w)
      (Prog.when (k.id = .vblank) (adjustExposureRange par))
      (fun _ d => k.view d = w) (fun _ _ => True) := by
    apply Triple.when
    · intro hvblank
      have hk : k ≠ .exposure := by
        rintro rfl
        cases hvblank
      exact (wordView_of_stays k (adjustWord_other k par hk)
        (P := (· = w))).consequence (fun _ hd => hd) (fun _ _ hd => hd)
          fun _ _ _ => trivial
    · exact fun _ _ hd => hd
  rw [Prog.bind_ok (Prog.modify_apply _ d)]
  apply Triple.bind hnew ?_ _ (k.view_ctrl d Ctrl.curToNew)
  intro _
  apply (applyWord_view k par hw).consequence (fun _ hd => hd) ?_
    fun _ _ _ => trivial
  intro _ d' hd'
  rw [WordCtrl.Shows, hd']
  exact ⟨hw, rfl⟩

theorem writableCtrls_word :
    ∃ xs ys, writableCtrls = xs ++ k.id :: ys ∧ ∀ j ∈ ys, j ≠ k.id := by
  cases k with
  | exposure => exact ⟨writableCtrls.take 2, writableCtrls.drop 3, rfl, by decide⟩
  | gain => exact ⟨writableCtrls.take 3, writableCtrls.drop 4, rfl, by decide⟩
  | vblank => exact ⟨writableCtrls.take 5, [], rfl, by decide⟩

/-- Once all controls are set up, the registers of each show it. -/
theorem handlerSetup_shows :
    Triple (fun d => d.pm.InUse) (handlerSetup par) (fun _ => k.Shows)
      (fun _ _ => True) := by
  obtain ⟨xs, ys, hsplit, hys⟩ := writableCtrls_word k
  rw [handlerSetup, hsplit, List.map_append, List.map_cons]
  apply Triple.forEach_at (R := fun _ => k.Shows)
  · intro x hx
    obtain ⟨j, -, rfl⟩ := List.mem_map.mp hx
    have hpm : Stays (Frame.fixing Device.pm)
        (Prog.modify ((ctrlField j).update Ctrl.curToNew) >>= fun _ =>
          sCtrl par j) :=
      (Keeps.modify fun d => pm_admits.curToNew d j).bind fun _ =>
        sCtrl_stays pm_admits (fun _ _ => trivial) par j
    apply (hpm.triple (P := fun d => d.pm.InUse) ?_).consequence
      (fun _ h => h) (fun _ _ h => h) fun _ _ _ => trivial
    intro d d' hsame huse
    have hsame : d'.pm = d.pm := hsame
    rwa [hsame]
  · exact setupWord_own par k
  · intro y hy
    obtain ⟨j, hj, rfl⟩ := List.mem_map.mp hy
    exact setupWord_other par k (hys j hj)

end Setup

end Ov7251
end SurfaceCameras
