import SurfaceCameras.Kernel.Control
import SurfaceCameras.Support.History

/-!
# Control operations beside a history

A control operation calls back into the driver, and what the driver does there
is not always to be seen in the state it leaves: a value that was brought to
the sensor may have been replaced by the next one.  So a driver is also run
beside a history, with callbacks that add to it.  The operations of the control
core are the same ones, on the state that stands beside the history.
-/

namespace SurfaceCameras
namespace Kernel

open Prog

variable {σ γ τ : Type}

/-- A field of the state, beside a history. -/
def Field.aside (F : Field σ τ) : Field (σ × γ) τ :=
  ⟨fun s => F.get s.1, fun s t => (F.set s.1 t, s.2),
    fun s t => F.get_set s.1 t⟩

@[simp] theorem Field.get_aside (F : Field σ τ) (s : σ × γ) :
    F.aside.get s = F.get s.1 := rfl

@[simp] theorem Field.update_aside (F : Field σ τ) (f : τ → τ) (s : σ × γ) :
    F.aside.update f s = (F.update f s.1, s.2) := rfl

/-! ## Erasure -/

section Erasing

variable (c : Field σ Ctrl) {cb' : Prog (σ × γ) Fault Unit}
  {cb : Prog σ Fault Unit} (hcb : Erases cb' cb)
include hcb

theorem setCtrl_erases : Erases (setCtrl c.aside cb') (setCtrl c cb) := by
  apply Erases.bind (Erases.modify fun _ => rfl)
  intro _
  apply Erases.bind (Erases.gets c.get)
  intro new
  apply Erases.ite (Erases.pure ())
  exact Erases.bind hcb fun _ => Erases.modify fun _ => rfl

theorem v4l2CtrlSCtrl_erases (v : ℤ) :
    Erases (v4l2CtrlSCtrl c.aside cb' v) (v4l2CtrlSCtrl c cb v) :=
  Erases.bind (Erases.modify fun _ => rfl) fun _ => setCtrl_erases c hcb

theorem v4l2SCtrl_erases (type : CtrlType) (v : ℤ) :
    Erases (v4l2SCtrl c.aside cb' type v) (v4l2SCtrl c cb type v) := by
  apply Erases.bind (Erases.gets c.get)
  intro x
  split
  · exact v4l2CtrlSCtrl_erases c hcb _
  · exact Erases.raise _

theorem v4l2CtrlModifyRange_erases (lo hi : ℤ) (st : ℕ) (dflt : ℤ) :
    Erases (v4l2CtrlModifyRange c.aside cb' lo hi st dflt)
      (v4l2CtrlModifyRange c cb lo hi st dflt) := by
  apply Erases.ite
  · exact Erases.bind (Erases.modify fun _ => rfl) fun _ => setCtrl_erases c hcb
  · exact Erases.raise _

end Erasing

theorem v4l2CtrlHandlerSetup_erases {ι : Type} (c : ι → Field σ Ctrl)
    {cb' : ι → Prog (σ × γ) Fault Unit} {cb : ι → Prog σ Fault Unit}
    (hcb : ∀ i, Erases (cb' i) (cb i)) (is : List ι) :
    Erases (v4l2CtrlHandlerSetup (is.map fun i => ((c i).aside, cb' i)))
      (v4l2CtrlHandlerSetup (is.map fun i => (c i, cb i))) := by
  induction is with
  | nil => exact Erases.pure ()
  | cons i is ih =>
      apply Erases.bind
      · exact Erases.bind (Erases.modify fun _ => rfl) fun _ => hcb i
      · exact fun _ => ih

/-! ## Bounded controls -/

/-- The range of the control starts at `lo` and does not go beyond `hi`, and
neither does any of its values. -/
structure Ctrl.Within (lo hi : ℤ) (c : Ctrl) : Prop where
  minimum : c.minimum = lo
  le_maximum : lo ≤ c.maximum
  maximum_le : c.maximum ≤ hi
  step : c.step = 1
  le_val : lo ≤ c.val
  val_le : c.val ≤ hi
  le_cur : lo ≤ c.cur
  cur_le : c.cur ≤ hi

namespace Ctrl.Within

variable {lo hi : ℤ} {c : Ctrl} (h : c.Within lo hi)
include h

theorem newToCur : c.newToCur.Within lo hi :=
  { h with le_cur := h.le_val, cur_le := h.val_le }

theorem curToNew : c.curToNew.Within lo hi :=
  { h with le_val := h.le_cur, val_le := h.cur_le }

theorem choose (v : ℤ) : ({ c with val := v } : Ctrl).validateNew.Within lo hi :=
  have hrange : c.minimum ≤ c.maximum := h.minimum ▸ h.le_maximum
  { h with
    le_val := h.minimum ▸ FixedWidth.le_clamp hrange
    val_le := le_trans (FixedWidth.clamp_le hrange) h.maximum_le }

theorem withRange {m : ℤ} (hlo : lo ≤ m) (hhi : m ≤ hi) (dflt : ℤ) :
    (c.withRange lo m 1 dflt).curToNew.validateNew.Within lo hi where
  minimum := rfl
  le_maximum := hlo
  maximum_le := hhi
  step := rfl
  le_val := FixedWidth.le_clamp hlo
  val_le := le_trans (FixedWidth.clamp_le hlo) hhi
  le_cur := h.le_cur
  cur_le := h.cur_le

end Ctrl.Within

theorem Ctrl.newStd_within {lo hi m dflt : ℤ} (hr : Ctrl.RangeOk lo m 1 dflt)
    (hhi : m ≤ hi) : (Ctrl.newStd lo m 1 dflt).Within lo hi :=
  have hdflt : dflt ≤ hi := le_trans hr.2.2.2 hhi
  ⟨rfl, hr.2.1, hhi, rfl, hr.2.2.1, hdflt, hr.2.2.1, hdflt⟩

/-! ## Rules -/

section Rules

variable {c : Field σ Ctrl} {cb : Prog σ Fault Unit} {R S T K : σ → Prop}
  {E : Fault → σ → Prop}

/-- Setting a control leads to `K` if the clamped value is in `S`, the callback
goes on to `T`, and `K` holds once the value is applied. -/
theorem setCtrl_triple
    (hvalidate : ∀ s, R s → S (c.update Ctrl.validateNew s))
    (hsame : ∀ s, S s → (c.get s).val = (c.get s).cur → K s)
    (hcb : Triple S cb (fun _ => T) E)
    (hcur : ∀ s, T s → K (c.update Ctrl.newToCur s)) :
    Triple R (setCtrl c cb) (fun _ => K) E := by
  apply Triple.bind (Triple.modify (Q := fun _ => S) hvalidate)
  intro _
  apply Triple.gets_bind
  intro new
  apply Triple.ite
  · intro hnew
    apply Triple.pure
    rintro s ⟨hs, rfl⟩
    exact hsame s hs hnew
  · intro _
    apply Triple.bind (hcb.strengthenPre fun _ hs => hs.1)
    exact fun _ => Triple.modify hcur

theorem v4l2CtrlSCtrl_triple {v : ℤ}
    (hset : ∀ s, R s → S (c.update Ctrl.validateNew
      (c.update (fun x => { x with val := v }) s)))
    (hsame : ∀ s, S s → (c.get s).val = (c.get s).cur → K s)
    (hcb : Triple S cb (fun _ => T) E)
    (hcur : ∀ s, T s → K (c.update Ctrl.newToCur s)) :
    Triple R (v4l2CtrlSCtrl c cb v) (fun _ => K) E := by
  apply Triple.bind (Triple.modify
    (Q := fun _ s => S (c.update Ctrl.validateNew s)) hset)
  exact fun _ => setCtrl_triple (fun _ hs => hs) hsame hcb hcur

theorem v4l2SCtrl_triple {type : CtrlType} {v : ℤ} {Q : Unit → σ → Prop}
    (hset : ∀ w, Triple R (v4l2CtrlSCtrl c cb w) Q E)
    (hrefused : ∀ s, R s → E (.errno .erange) s) :
    Triple R (v4l2SCtrl c cb type v) Q E := by
  intro s hs
  cases h : (c.get s).stdValidate v type with
  | some w =>
      rw [v4l2SCtrl_of_some h]
      exact hset w s hs
  | none =>
      rw [v4l2SCtrl_of_none h]
      exact hrefused s hs

/-- A range that is refused changes nothing. -/
theorem v4l2CtrlModifyRange_triple {lo hi : ℤ} {st : ℕ} {dflt : ℤ}
    (hrange : Ctrl.RangeOk lo hi st dflt → ∀ s, R s →
      S (c.update Ctrl.validateNew (c.update (fun x =>
        (x.withRange lo hi st dflt).curToNew) s)))
    (hrefused : ¬ Ctrl.RangeOk lo hi st dflt → ∀ s, R s →
      E (.errno .erange) s)
    (hsame : ∀ s, S s → (c.get s).val = (c.get s).cur → K s)
    (hcb : Triple S cb (fun _ => T) E)
    (hcur : ∀ s, T s → K (c.update Ctrl.newToCur s)) :
    Triple R (v4l2CtrlModifyRange c cb lo hi st dflt) (fun _ => K) E := by
  apply Triple.ite
  · intro hok
    apply Triple.bind (Triple.modify
      (Q := fun _ s => S (c.update Ctrl.validateNew s)) (hrange hok))
    exact fun _ => setCtrl_triple (fun _ hs => hs) hsame hcb hcur
  · exact fun hbad => Triple.raise (hrefused hbad)

theorem v4l2CtrlHandlerSetup_triple {ι : Type} {c : ι → Field σ Ctrl}
    {cb : ι → Prog σ Fault Unit}
    (hnew : ∀ i s, R s → R ((c i).update Ctrl.curToNew s))
    (hcb : ∀ i, Triple R (cb i) (fun _ => R) E) (is : List ι) :
    Triple R (v4l2CtrlHandlerSetup (is.map fun i => (c i, cb i)))
      (fun _ => R) E := by
  apply Triple.forEach
  intro x hx
  obtain ⟨i, -, rfl⟩ := List.mem_map.mp hx
  exact Triple.bind (Triple.modify (hnew i)) fun _ => hcb i

end Rules

end Kernel
end SurfaceCameras
