import SurfaceCameras.Kernel.Device
import SurfaceCameras.Support.FixedWidth
import Mathlib.Data.Int.Order.Basic

/-!
# The V4L2 control core

A control has a range, a default, the value last applied and the value being
set.  Setting a control clamps the new value to the range and, if it differs
from the applied one, hands it to the driver's `s_ctrl` callback; only when the
callback succeeds does it become the applied value.  Changing the range clamps
the applied value in the same way.

Every control of the drivers has step 1, for which rounding to the range is
clamping.  The drivers set and change the ranges of integer controls only; user
space also writes booleans, which are zero or one, and menus, which refuse what
is not one of their entries.
-/

namespace SurfaceCameras
namespace Kernel

/-- `enum v4l2_ctrl_type`, for the controls that user space writes. -/
inductive CtrlType where
  | integer
  | boolean
  | menu
  deriving DecidableEq, Repr

/-- `struct v4l2_ctrl`: `val` is the value being set and `cur` the value last
applied. -/
structure Ctrl where
  minimum : ℤ
  maximum : ℤ
  step : ℕ
  defaultValue : ℤ
  val : ℤ
  cur : ℤ
  deriving DecidableEq, Repr

namespace Ctrl

/-- `v4l2_ctrl_new_std`: a control starts at its default. -/
def newStd (minimum maximum : ℤ) (step : ℕ) (defaultValue : ℤ) : Ctrl where
  minimum := minimum
  maximum := maximum
  step := step
  defaultValue := defaultValue
  val := defaultValue
  cur := defaultValue

/-- `std_validate` of a value from user space, up to the range of an integer:
any value but zero turns a boolean on, and a menu refuses what it does not
have. -/
def stdValidate (c : Ctrl) (v : ℤ) : CtrlType → Option ℤ
  | .integer => some v
  | .boolean => some (if v = 0 then 0 else 1)
  | .menu => if c.minimum ≤ v ∧ v ≤ c.maximum then some v else none

/-- `validate_new`: move the value being set into the range. -/
def validateNew (c : Ctrl) : Ctrl :=
  { c with val := FixedWidth.clamp c.val c.minimum c.maximum }

def newToCur (c : Ctrl) : Ctrl := { c with cur := c.val }

def curToNew (c : Ctrl) : Ctrl := { c with val := c.cur }

/-- The range checks of `check_range`. -/
def RangeOk (minimum maximum : ℤ) (step : ℕ) (defaultValue : ℤ) : Prop :=
  step ≠ 0 ∧ minimum ≤ maximum ∧ minimum ≤ defaultValue ∧
    defaultValue ≤ maximum

instance (minimum maximum : ℤ) (step : ℕ) (defaultValue : ℤ) :
    Decidable (RangeOk minimum maximum step defaultValue) :=
  inferInstanceAs (Decidable (_ ∧ _))

/-- The control once `v` has been set and applied. -/
def applied (c : Ctrl) (v : ℤ) : Ctrl :=
  { c with
    val := FixedWidth.clamp v c.minimum c.maximum
    cur := FixedWidth.clamp v c.minimum c.maximum }

/-- The control once user space has written `v`. -/
def written (c : Ctrl) (type : CtrlType) (v : ℤ) : Ctrl :=
  match c.stdValidate v type with
  | some w => c.applied w
  | none => c

/-- The control with a new range, before its value is clamped. -/
def withRange (c : Ctrl) (minimum maximum : ℤ) (step : ℕ)
    (defaultValue : ℤ) : Ctrl :=
  { c with
    minimum := minimum
    maximum := maximum
    step := step
    defaultValue := defaultValue }

/-- The applied value lies in the range and no other value is being set. -/
structure Settled (c : Ctrl) : Prop where
  val_eq : c.val = c.cur
  min_le : c.minimum ≤ c.cur
  le_max : c.cur ≤ c.maximum

theorem newStd_settled {minimum maximum : ℤ} {step : ℕ} {defaultValue : ℤ}
    (h : RangeOk minimum maximum step defaultValue) :
    (newStd minimum maximum step defaultValue).Settled :=
  ⟨rfl, h.2.2.1, h.2.2.2⟩

theorem applied_settled {c : Ctrl} (h : c.minimum ≤ c.maximum) (v : ℤ) :
    (c.applied v).Settled :=
  ⟨rfl, FixedWidth.le_clamp h, FixedWidth.clamp_le h⟩

theorem applied_of_unchanged {c : Ctrl} {v : ℤ}
    (h : (c.applied v).cur = c.cur) :
    c.applied v = ({ c with val := v } : Ctrl).validateNew := by
  simp only [applied, validateNew] at h ⊢
  rw [h]

theorem written_of_some {c : Ctrl} {type : CtrlType} {v w : ℤ}
    (h : c.stdValidate v type = some w) : c.written type v = c.applied w := by
  rw [written, h]

theorem written_of_none {c : Ctrl} {type : CtrlType} {v : ℤ}
    (h : c.stdValidate v type = none) : c.written type v = c := by
  rw [written, h]

theorem withRange_validateNew {c : Ctrl} (hval : c.val = c.cur) {lo hi : ℤ}
    (hlo : lo ≤ c.cur) (hhi : c.cur ≤ hi) (st : ℕ) (dflt : ℤ) :
    (c.withRange lo hi st dflt).curToNew.validateNew =
      c.withRange lo hi st dflt := by
  simp only [withRange, curToNew, validateNew,
    FixedWidth.clamp_of_mem hlo hhi, hval]

theorem curToNew_eq {c : Ctrl} (h : c.val = c.cur) : c.curToNew = c := by
  obtain ⟨minimum, maximum, step, defaultValue, val, cur⟩ := c
  have h : val = cur := h
  subst h
  rfl

end Ctrl

section Core

variable {σ : Type} (c : Field σ Ctrl) (sCtrl : Prog σ Fault Unit)

/-- `set_ctrl`: clamp the value being set and, if it is a change, let the
driver apply it. -/
def setCtrl : Prog σ Fault Unit := do
  Prog.modify (c.update Ctrl.validateNew)
  let new ← Prog.gets c.get
  if new.val = new.cur then
    pure ()
  else do
    sCtrl
    Prog.modify (c.update Ctrl.newToCur)

/-- `__v4l2_ctrl_s_ctrl`. -/
def v4l2CtrlSCtrl (v : ℤ) : Prog σ Fault Unit := do
  Prog.modify (c.update fun x => { x with val := v })
  setCtrl c sCtrl

/-- `v4l2_s_ctrl`, a write from user space.  Nobody sees a value that was
refused, so it is not stored. -/
def v4l2SCtrl (type : CtrlType) (v : ℤ) : Prog σ Fault Unit := do
  let x ← Prog.gets c.get
  match x.stdValidate v type with
  | some v => v4l2CtrlSCtrl c sCtrl v
  | none => Prog.raise (.errno .erange)

/-- `__v4l2_ctrl_modify_range`: an inconsistent range is refused; otherwise it
is stored and the applied value clamped to it. -/
def v4l2CtrlModifyRange (minimum maximum : ℤ) (step : ℕ)
    (defaultValue : ℤ) : Prog σ Fault Unit :=
  if Ctrl.RangeOk minimum maximum step defaultValue then do
    Prog.modify (c.update fun x =>
      (x.withRange minimum maximum step defaultValue).curToNew)
    setCtrl c sCtrl
  else
    Prog.raise (.errno .erange)

/-- `__v4l2_ctrl_handler_setup`: hand the applied value of every writable
control to the driver, in creation order, until one fails. -/
def v4l2CtrlHandlerSetup :
    List (Field σ Ctrl × Prog σ Fault Unit) → Prog σ Fault Unit :=
  Prog.forEach fun (c, sCtrl) => do
    Prog.modify (c.update Ctrl.curToNew)
    sCtrl

theorem v4l2SCtrl_boolean (v : ℤ) :
    v4l2SCtrl c sCtrl .boolean v =
      v4l2CtrlSCtrl c sCtrl (if v = 0 then 0 else 1) := rfl

variable {c sCtrl}

theorem v4l2SCtrl_of_some {type : CtrlType} {s : σ} {v w : ℤ}
    (h : (c.get s).stdValidate v type = some w) :
    v4l2SCtrl c sCtrl type v s = v4l2CtrlSCtrl c sCtrl w s := by
  unfold v4l2SCtrl
  rw [Prog.bind_ok (Prog.gets_apply _ s), h]

theorem v4l2SCtrl_of_none {type : CtrlType} {s : σ} {v : ℤ}
    (h : (c.get s).stdValidate v type = none) :
    v4l2SCtrl c sCtrl type v s = (.error (.errno .erange), s) := by
  unfold v4l2SCtrl
  rw [Prog.bind_ok (Prog.gets_apply _ s), h]
  rfl

theorem setCtrl_unchanged {s : σ}
    (h : (c.get s).validateNew.val = (c.get s).cur) :
    setCtrl c sCtrl s = (.ok (), c.update Ctrl.validateNew s) := by
  unfold setCtrl
  rw [Prog.bind_ok (Prog.modify_apply _ s), Prog.bind_ok (Prog.gets_apply _ _)]
  have hnew : (c.get (c.update Ctrl.validateNew s)).val =
      (c.get (c.update Ctrl.validateNew s)).cur := by
    rw [Field.get_update]
    exact h
  rw [if_pos hnew]
  rfl

theorem setCtrl_changed {s s' : σ}
    (h : (c.get s).validateNew.val ≠ (c.get s).cur)
    (hs : sCtrl (c.update Ctrl.validateNew s) = (.ok (), s')) :
    setCtrl c sCtrl s = (.ok (), c.update Ctrl.newToCur s') := by
  unfold setCtrl
  rw [Prog.bind_ok (Prog.modify_apply _ s), Prog.bind_ok (Prog.gets_apply _ _)]
  have hnew : ¬ (c.get (c.update Ctrl.validateNew s)).val =
      (c.get (c.update Ctrl.validateNew s)).cur := by
    rw [Field.get_update]
    exact h
  rw [if_neg hnew, Prog.bind_ok hs]
  rfl

theorem setCtrl_failed {s s' : σ} {e : Fault}
    (h : (c.get s).validateNew.val ≠ (c.get s).cur)
    (hs : sCtrl (c.update Ctrl.validateNew s) = (.error e, s')) :
    setCtrl c sCtrl s = (.error e, s') := by
  unfold setCtrl
  rw [Prog.bind_ok (Prog.modify_apply _ s), Prog.bind_ok (Prog.gets_apply _ _)]
  have hnew : ¬ (c.get (c.update Ctrl.validateNew s)).val =
      (c.get (c.update Ctrl.validateNew s)).cur := by
    rw [Field.get_update]
    exact h
  rw [if_neg hnew, Prog.bind_error hs]

theorem v4l2CtrlModifyRange_kept (c : Field σ Ctrl)
    (sCtrl : Prog σ Fault Unit) {s : σ} {lo hi : ℤ} {st : ℕ} {dflt : ℤ}
    (hr : Ctrl.RangeOk lo hi st dflt) (hlo : lo ≤ (c.get s).cur)
    (hhi : (c.get s).cur ≤ hi) :
    ∃ s', v4l2CtrlModifyRange c sCtrl lo hi st dflt s = (.ok (), s') := by
  unfold v4l2CtrlModifyRange
  rw [if_pos hr, Prog.bind_ok (Prog.modify_apply _ s)]
  refine ⟨_, setCtrl_unchanged ?_⟩
  rw [Field.get_update]
  exact FixedWidth.clamp_of_mem hlo hhi

end Core

end Kernel
end SurfaceCameras
