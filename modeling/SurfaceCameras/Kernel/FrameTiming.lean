import SurfaceCameras.Kernel.Histories

/-!
# Exposure and frame length of a sensor

A sensor has a control for the exposure and one for the vertical blanking, and
its registers hold an exposure and a frame length, both in lines.  Setting the
blanking may reach both registers, since the exposure range follows the frame.
The two controls and the two numbers in the registers are followed here through
the operations of the control core.
-/

namespace SurfaceCameras
namespace Kernel

open Prog FixedWidth

variable {σ : Type}

/-! ## Controls whose range changes -/

namespace Ctrl

variable {c : Ctrl}

theorem applied_of_same (h : c.validateNew.val = c.cur) :
    c.applied c.val = c.validateNew :=
  applied_of_unchanged (v := c.val) h

/-- The control with a range from `lo` to `m`, and its value moved into it. -/
def ranged (c : Ctrl) (lo m dflt : ℤ) : Ctrl :=
  (c.withRange lo m 1 dflt).applied c.cur

theorem ranged_within (c : Ctrl) {lo m : ℤ} (hm : lo ≤ m) (dflt : ℤ) :
    (c.ranged lo m dflt).Within lo m where
  minimum := rfl
  le_maximum := hm
  maximum_le := le_rfl
  step := rfl
  le_val := le_clamp hm
  val_le := clamp_le hm
  le_cur := le_clamp hm
  cur_le := clamp_le hm

namespace Within

variable {lo hi : ℤ} (h : c.Within lo hi)
include h

theorem mono {hi' : ℤ} (hle : hi ≤ hi') : c.Within lo hi' :=
  { h with
    maximum_le := le_trans h.maximum_le hle
    val_le := le_trans h.val_le hle
    cur_le := le_trans h.cur_le hle }

theorem applied (v : ℤ) : (c.applied v).Within lo hi := (h.choose v).newToCur

theorem ranged_le (m dflt : ℤ) : (c.ranged lo m dflt).cur ≤ c.cur :=
  clamp_le_val h.le_cur

end Within

/-- The range lies between `lo` and `hi`, and the value applied in the
range. -/
structure Spans (lo hi : ℤ) (c : Ctrl) : Prop where
  le_minimum : lo ≤ c.minimum
  maximum_le : c.maximum ≤ hi
  minimum_le : c.minimum ≤ c.cur
  le_maximum : c.cur ≤ c.maximum

theorem newStd_spans {lo hi m dflt : ℤ} {st : ℕ}
    (hr : Ctrl.RangeOk lo m st dflt) (hhi : m ≤ hi) :
    (Ctrl.newStd lo m st dflt).Spans lo hi :=
  ⟨le_rfl, hhi, hr.2.2.1, hr.2.2.2⟩

theorem ranged_spans (c : Ctrl) {lo hi m : ℤ} (hm : lo ≤ m) (hhi : m ≤ hi)
    (dflt : ℤ) : (c.ranged lo m dflt).Spans lo hi :=
  ⟨le_rfl, hhi, le_clamp hm, clamp_le hm⟩

namespace Spans

variable {lo hi : ℤ} (h : c.Spans lo hi)
include h

theorem le_cur : lo ≤ c.cur := le_trans h.le_minimum h.minimum_le

theorem cur_le : c.cur ≤ hi := le_trans h.le_maximum h.maximum_le

theorem curToNew : c.curToNew.Spans lo hi := { h with }

theorem applied (v : ℤ) : (c.applied v).Spans lo hi :=
  have hrange : c.minimum ≤ c.maximum := le_trans h.minimum_le h.le_maximum
  { h with
    minimum_le := le_clamp hrange
    le_maximum := clamp_le hrange }

end Spans

end Ctrl

/-! ## Timing -/

/-- The two controls of a sensor, the height of its frame and the least vertical
blanking.  `Shows e n s` says that the registers of `s` hold the exposure `e`
and the frame length `n`; choosing values and ranges for the controls does not
bear on that. -/
structure FrameTiming (σ : Type) where
  exposure : Field σ Ctrl
  vblank : Field σ Ctrl
  height : ℤ
  minimum : ℤ
  Shows : ℤ → ℤ → σ → Prop
  vblank_exposure : ∀ f s, vblank.get (exposure.update f s) = vblank.get s
  exposure_vblank : ∀ f s, exposure.get (vblank.update f s) = exposure.get s
  shows_exposure : ∀ {e n s} f, Shows e n s → Shows e n (exposure.update f s)
  shows_vblank : ∀ {e n s} f, Shows e n s → Shows e n (vblank.update f s)

namespace FrameTiming

variable (F : FrameTiming σ)

/-- The registers hold `e` and `n`, and the controls are `x` and `y`. -/
structure At (e n : ℤ) (x y : Ctrl) (s : σ) : Prop where
  shows : F.Shows e n s
  exposure : F.exposure.get s = x
  vblank : F.vblank.get s = y

/-- The callback stores the exposure being set, as long as it goes with the
frame length in the registers. -/
def BringsExposure (fits : ℤ → ℤ → Prop) (cb : Prog σ Fault Unit) : Prop :=
  ∀ e n x y, 1 ≤ x.val → x.val ≤ 65535 → fits x.val n →
    Triple (F.At e n x y) cb (fun _ => F.At x.val n x y) fun _ _ => False

/-- The callback stores the frame length of the blanking being set, as long as
the exposure in the registers goes with it. -/
def BringsVblank (fits : ℤ → ℤ → Prop) (cb : Prog σ Fault Unit) : Prop :=
  ∀ e n x y, F.minimum ≤ y.val → F.height + y.val ≤ 65535 →
    fits e (F.height + y.val) →
      Triple (F.At e n x y) cb (fun _ => F.At e (F.height + y.val) x y)
        fun _ _ => False

variable {F} {fits : ℤ → ℤ → Prop} {e n v : ℤ} {x y : Ctrl} {s : σ}

theorem At.updateExposure (h : F.At e n x y s) (f : Ctrl → Ctrl) :
    F.At e n (f x) y (F.exposure.update f s) where
  shows := F.shows_exposure f h.shows
  exposure := by rw [Field.get_update, h.exposure]
  vblank := (F.vblank_exposure f s).trans h.vblank

theorem At.updateVblank (h : F.At e n x y s) (f : Ctrl → Ctrl) :
    F.At e n x (f y) (F.vblank.update f s) where
  shows := F.shows_vblank f h.shows
  exposure := (F.exposure_vblank f s).trans h.exposure
  vblank := by rw [Field.get_update, h.vblank]

/-! ## The operations of the control core -/

section Exposure

variable {cb : Prog σ Fault Unit} (hcb : F.BringsExposure fits cb)
include hcb

/-- The registers follow the exposure control. -/
theorem setExposure_at (hlo : 1 ≤ (x.applied x.val).cur)
    (hhi : (x.applied x.val).cur ≤ 65535)
    (hfits : fits (x.applied x.val).cur n) :
    Triple (F.At x.cur n x y) (setCtrl F.exposure cb)
      (fun _ => F.At (x.applied x.val).cur n (x.applied x.val) y)
      (fun _ _ => False) := by
  apply setCtrl_triple (S := F.At x.cur n x.validateNew y)
    (T := F.At x.validateNew.val n x.validateNew y)
  · exact fun s hs => hs.updateExposure Ctrl.validateNew
  · intro s hs hsame
    rw [hs.exposure] at hsame
    have hsame : x.validateNew.val = x.cur := hsame
    rw [Ctrl.applied_of_same hsame]
    exact hs
  · exact hcb x.cur n x.validateNew y hlo hhi hfits
  · exact fun s hs => hs.updateExposure Ctrl.newToCur

theorem writeExposure_at (hlo : 1 ≤ (x.applied v).cur)
    (hhi : (x.applied v).cur ≤ 65535) (hfits : fits (x.applied v).cur n) :
    Triple (F.At x.cur n x y) (v4l2CtrlSCtrl F.exposure cb v)
      (fun _ => F.At (x.applied v).cur n (x.applied v) y)
      (fun _ _ => False) := by
  apply Triple.bind (Q := fun _ => F.At x.cur n { x with val := v } y)
  · exact Triple.modify fun s hs =>
      hs.updateExposure fun c => { c with val := v }
  · exact fun _ => setExposure_at (x := { x with val := v }) hcb hlo hhi hfits

/-- A range that is accepted moves the exposure into it. -/
theorem rangeExposure_at {lo m dflt : ℤ} (hr : Ctrl.RangeOk lo m 1 dflt)
    (hlo : 1 ≤ (x.ranged lo m dflt).cur)
    (hhi : (x.ranged lo m dflt).cur ≤ 65535)
    (hfits : fits (x.ranged lo m dflt).cur n) :
    Triple (F.At x.cur n x y)
      (v4l2CtrlModifyRange F.exposure cb lo m 1 dflt)
      (fun _ => F.At (x.ranged lo m dflt).cur n (x.ranged lo m dflt) y)
      (fun _ _ => False) := by
  apply Triple.ite
  · intro _
    apply Triple.bind (Q := fun _ =>
      F.At x.cur n (x.withRange lo m 1 dflt).curToNew y)
    · exact Triple.modify fun s hs => hs.updateExposure fun c =>
        (c.withRange lo m 1 dflt).curToNew
    · exact fun _ => setExposure_at
        (x := (x.withRange lo m 1 dflt).curToNew) hcb hlo hhi hfits
  · exact fun hbad => absurd hr hbad

theorem setupExposure_at (hlo : 1 ≤ x.cur) (hhi : x.cur ≤ 65535)
    (hfits : fits x.cur n) :
    Triple (F.At e n x y)
      (Prog.modify (F.exposure.update Ctrl.curToNew) >>= fun _ => cb)
      (fun _ => F.At x.cur n x.curToNew y) (fun _ _ => False) := by
  apply Triple.bind (Q := fun _ => F.At e n x.curToNew y)
  · exact Triple.modify fun s hs => hs.updateExposure Ctrl.curToNew
  · exact fun _ => hcb e n x.curToNew y hlo hhi hfits

end Exposure

/-- A new range that has room for the blanking is stored and nothing more. -/
theorem rangeVblank_at {cb : Prog σ Fault Unit} {lo m dflt : ℤ}
    (hr : Ctrl.RangeOk lo m 1 dflt) (hlo : lo ≤ y.cur) (hhi : y.cur ≤ m) :
    Triple (F.At e n x y) (v4l2CtrlModifyRange F.vblank cb lo m 1 dflt)
      (fun _ => F.At e n x (y.ranged lo m dflt)) (fun _ _ => False) := by
  have hsame : (y.withRange lo m 1 dflt).curToNew.validateNew.val = y.cur :=
    clamp_of_mem hlo hhi
  apply Triple.ite
  · intro _
    apply Triple.bind (Q := fun _ =>
      F.At e n x (y.withRange lo m 1 dflt).curToNew)
    · exact Triple.modify fun s hs => hs.updateVblank fun c =>
        (c.withRange lo m 1 dflt).curToNew
    intro _ s hs
    rw [setCtrl_unchanged (by rw [hs.vblank]; exact hsame)]
    have hset := hs.updateVblank Ctrl.validateNew
    have happlied := Ctrl.applied_of_same
      (c := (y.withRange lo m 1 dflt).curToNew) hsame
    rw [← happlied] at hset
    exact hset
  · exact fun hbad => absurd hr hbad

/-- Setting the blanking to another value takes the exposure to `x'` before the
frame length follows. -/
theorem writeVblank_at {adjust cb : Prog σ Fault Unit}
    (hcb : F.BringsVblank fits cb) {x' : Ctrl}
    (hlo : F.minimum ≤ (y.applied v).cur)
    (hhi : F.height + (y.applied v).cur ≤ 65535)
    (hfits : fits x'.cur (F.height + (y.applied v).cur))
    (hadjust : Triple
      (F.At x.cur (F.height + y.cur) x { y with val := v }.validateNew) adjust
      (fun _ => F.At x'.cur (F.height + y.cur) x' { y with val := v }.validateNew)
      fun _ _ => False) :
    Triple (F.At x.cur (F.height + y.cur) x y)
      (v4l2CtrlSCtrl F.vblank (adjust >>= fun _ => cb) v)
      (fun _ s => ∃ x₂, (x₂ = x ∧ (y.applied v).cur = y.cur ∨ x₂ = x') ∧
        F.At x₂.cur (F.height + (y.applied v).cur) x₂ (y.applied v) s)
      (fun _ _ => False) := by
  let y₁ : Ctrl := ({ y with val := v } : Ctrl).validateNew
  apply v4l2CtrlSCtrl_triple (S := F.At x.cur (F.height + y.cur) x y₁)
    (T := F.At x'.cur (F.height + y₁.val) x' y₁)
  · intro s hs
    exact (hs.updateVblank fun c => { c with val := v }).updateVblank
      Ctrl.validateNew
  · intro s hs hsame
    rw [hs.vblank] at hsame
    have hsame : (y.applied v).cur = y.cur := hsame
    refine ⟨x, Or.inl ⟨rfl, hsame⟩, ?_⟩
    rw [hsame, Ctrl.applied_of_unchanged hsame]
    exact hs
  · apply Triple.bind hadjust
    exact fun _ => hcb x'.cur (F.height + y.cur) x' y₁ hlo hhi hfits
  · exact fun s hs => ⟨x', Or.inr rfl, hs.updateVblank Ctrl.newToCur⟩

/-! ## Invariants -/

/-- An exposure control that is good for a frame of `n` lines may be set, and
its exposures go with that frame; so do shorter ones. -/
structure Fitting (fits : ℤ → ℤ → Prop) (good : ℤ → Ctrl → Prop) : Prop where
  within : ∀ {n x}, n ≤ 65535 → good n x → x.Within 1 65535
  applied : ∀ {n x} v, good n x → good n (x.applied v)
  fits_cur : ∀ {n x}, good n x → fits x.cur n
  shorter : ∀ {e e' n}, e' ≤ e → fits e n → fits e' n

/-- The exposure ends at least `margin` lines before the frame. -/
def EndsBefore (margin e n : ℤ) : Prop := e ≤ n - margin

/-- All exposures of the control end before the frame. -/
def Confined (margin n : ℤ) (x : Ctrl) : Prop := x.Within 1 (n - margin)

theorem confined_fitting {margin : ℤ} (hmargin : 0 ≤ margin) :
    Fitting (EndsBefore margin) (Confined margin) where
  within hn hx := hx.mono (by omega)
  applied v hx := hx.applied v
  fits_cur hx := hx.cur_le
  shorter hle h := le_trans hle h

variable (F) in
/-- The registers hold what the controls say, and the exposure control is good
for the frame. -/
structure Holds (good : ℤ → Ctrl → Prop) (s : σ) : Prop where
  shows : F.Shows (F.exposure.get s).cur (F.height + (F.vblank.get s).cur) s
  good : good (F.height + (F.vblank.get s).cur) (F.exposure.get s)
  vblank : (F.vblank.get s).Spans F.minimum (65535 - F.height)

variable (F) in
/-- Before a frame length is stored, `adjust` makes the exposure good for it,
and stores no exposure that does not go with the frame in the registers. -/
def Adjusts (good : ℤ → Ctrl → Prop) (adjust : Prog σ Fault Unit) : Prop :=
  ∀ n x y, n ≤ 65535 → good n x → F.minimum ≤ y.val →
    F.height + y.val ≤ 65535 →
      ∃ x', good (F.height + y.val) x' ∧
        Triple (F.At x.cur n x y) adjust (fun _ => F.At x'.cur n x' y)
          fun _ _ => False

variable {good : ℤ → Ctrl → Prop}

theorem At.holds (h : F.At x.cur (F.height + y.cur) x y s)
    (hgood : good (F.height + y.cur) x)
    (hy : y.Spans F.minimum (65535 - F.height)) : F.Holds good s := by
  obtain ⟨hshows, rfl, rfl⟩ := h
  exact ⟨hshows, hgood, hy⟩

theorem Holds.triple {α : Type} {p : Prog σ Fault α} {Q : α → σ → Prop}
    {E : Fault → σ → Prop}
    (h : ∀ x y, good (F.height + y.cur) x →
      y.Spans F.minimum (65535 - F.height) →
        Triple (F.At x.cur (F.height + y.cur) x y) p Q E) :
    Triple (F.Holds good) p Q E :=
  fun s hs => h _ _ hs.good hs.vblank s ⟨hs.shows, rfl, rfl⟩

theorem frame_le (hy : y.Spans F.minimum (65535 - F.height)) :
    F.height + y.cur ≤ 65535 := by
  have hle := hy.cur_le
  omega

section Fitting

variable (hfit : Fitting fits good)
include hfit

theorem writeExposure_holds {cb : Prog σ Fault Unit}
    (hcb : F.BringsExposure fits cb) (v : ℤ) :
    Triple (F.Holds good) (v4l2CtrlSCtrl F.exposure cb v)
      (fun _ => F.Holds good) (fun _ _ => False) := by
  apply Holds.triple
  intro x y hx hy
  have happlied := hfit.applied v hx
  have hwithin := hfit.within (frame_le hy) happlied
  apply (writeExposure_at hcb hwithin.le_cur hwithin.cur_le
    (hfit.fits_cur happlied)).consequence (fun _ hs => hs) ?_ fun _ _ hs => hs
  exact fun _ s hs => hs.holds happlied hy

/-- A range for the exposure that is good for every frame, or refused. -/
theorem rangeExposure_holds {cb : Prog σ Fault Unit}
    (hcb : F.BringsExposure fits cb) {m dflt : ℤ}
    (hgood : ∀ n x, 1 ≤ m → good n x → good n (x.ranged 1 m dflt)) :
    Triple (F.Holds good) (v4l2CtrlModifyRange F.exposure cb 1 m 1 dflt)
      (fun _ => F.Holds good) (fun _ => F.Holds good) := by
  by_cases hr : Ctrl.RangeOk 1 m 1 dflt
  · apply Holds.triple
    intro x y hx hy
    have hranged := hgood _ x hr.2.1 hx
    have hwithin := hfit.within (frame_le hy) hranged
    apply (rangeExposure_at hcb hr hwithin.le_cur hwithin.cur_le
      (hfit.fits_cur hranged)).consequence (fun _ hs => hs) ?_ fun _ _ hs => hs.elim
    exact fun _ s hs => hs.holds hranged hy
  · unfold v4l2CtrlModifyRange
    rw [if_neg hr]
    exact Triple.raise fun _ hs => hs

/-- The range change inside the callback of the blanking: the exposure is cut
down to `m` lines, and its result is not looked at. -/
theorem limitExposure_at {cb : Prog σ Fault Unit}
    {handler : Fault → Prog σ Fault Unit} (hcb : F.BringsExposure fits cb)
    {m : ℤ} (hn : n ≤ 65535) (hx : good n x) (hm : 1 ≤ m) :
    Triple (F.At x.cur n x y)
      (Prog.tryCatch (v4l2CtrlModifyRange F.exposure cb x.minimum m x.step
        (min x.val m)) handler)
      (fun _ => F.At (x.ranged 1 m (min x.val m)).cur n
        (x.ranged 1 m (min x.val m)) y) fun _ _ => False := by
  have hwithin := hfit.within hn hx
  have hle := hwithin.ranged_le m (min x.val m)
  have hr : Ctrl.RangeOk 1 m 1 (min x.val m) :=
    ⟨Nat.one_ne_zero, hm, le_min hwithin.le_val hm, min_le_right _ _⟩
  rw [hwithin.minimum, hwithin.step]
  apply Triple.tryCatch (J := fun _ _ => False)
  · exact rangeExposure_at hcb hr (x.ranged_within hm _).le_cur
      (le_trans hle hwithin.cur_le) (hfit.shorter hle (hfit.fits_cur hx))
  · exact fun _ _ hs => hs.elim

/-- Setting the blanking, with a callback that adjusts the exposure first. -/
theorem writeVblank_holds {adjust cb : Prog σ Fault Unit}
    (hadjust : F.Adjusts good adjust) (hcb : F.BringsVblank fits cb) (v : ℤ) :
    Triple (F.Holds good)
      (v4l2CtrlSCtrl F.vblank (adjust >>= fun _ => cb) v)
      (fun _ => F.Holds good) (fun _ _ => False) := by
  apply Holds.triple
  intro x y hx hy
  have happlied := hy.applied v
  have hframe : F.height + (y.applied v).cur ≤ 65535 := frame_le happlied
  obtain ⟨x', hgood, hadjust⟩ := hadjust (F.height + y.cur) x
    { y with val := v }.validateNew (frame_le hy) hx happlied.le_cur hframe
  apply (writeVblank_at hcb happlied.le_cur hframe (hfit.fits_cur hgood)
    hadjust).consequence (fun _ hs => hs) ?_ fun _ _ hs => hs
  rintro _ s ⟨x₂, ⟨rfl, hsame⟩ | rfl, hs⟩
  · exact hs.holds (hsame ▸ hx) happlied
  · exact hs.holds hgood happlied

/-- Setting the blanking up leads to the invariant, whatever frame length the
registers held. -/
theorem setupVblank_holds {adjust cb : Prog σ Fault Unit}
    (hadjust : F.Adjusts good adjust) (hcb : F.BringsVblank fits cb)
    (hn : n ≤ 65535) (hx : good n x)
    (hy : y.Spans F.minimum (65535 - F.height)) :
    Triple (F.At x.cur n x y)
      (Prog.modify (F.vblank.update Ctrl.curToNew) >>= fun _ =>
        adjust >>= fun _ => cb)
      (fun _ => F.Holds good) (fun _ _ => False) := by
  have hframe : F.height + y.curToNew.cur ≤ 65535 := frame_le hy.curToNew
  obtain ⟨x', hgood, hadjust⟩ := hadjust n x y.curToNew hn hx hy.le_cur hframe
  apply Triple.bind (Q := fun _ => F.At x.cur n x y.curToNew)
  · exact Triple.modify fun s hs => hs.updateVblank Ctrl.curToNew
  intro _
  apply Triple.bind hadjust
  intro _
  apply (hcb x'.cur n x' y.curToNew hy.le_cur hframe
    (hfit.fits_cur hgood)).consequence (fun _ hs => hs) ?_ fun _ _ hs => hs
  exact fun _ s hs => hs.holds (y := y.curToNew) hgood hy.curToNew

end Fitting

/-- The range of the blanking is stored again, or refused. -/
theorem rangeVblank_holds {cb : Prog σ Fault Unit} {dflt : ℤ} :
    Triple (F.Holds good)
      (v4l2CtrlModifyRange F.vblank cb F.minimum (65535 - F.height) 1 dflt)
      (fun _ => F.Holds good) (fun _ => F.Holds good) := by
  by_cases hr : Ctrl.RangeOk F.minimum (65535 - F.height) 1 dflt
  · apply Holds.triple
    intro x y hx hy
    have hsame : (y.ranged F.minimum (65535 - F.height) dflt).cur = y.cur :=
      clamp_of_mem hy.le_cur hy.cur_le
    apply (rangeVblank_at hr hy.le_cur hy.cur_le).consequence
      (fun _ hs => hs) ?_ fun _ _ hs => hs.elim
    intro _ s hs
    rw [← hsame] at hs hx
    exact hs.holds hx (y.ranged_spans hr.2.1 le_rfl dflt)
  · unfold v4l2CtrlModifyRange
    rw [if_neg hr]
    exact Triple.raise fun _ hs => hs

/-- Setting a control that has nothing to do with the frame. -/
theorem writeOther_holds {c : Field σ Ctrl} {cb : Prog σ Fault Unit}
    (hother : ∀ {e n x y s} f, F.At e n x y s → F.At e n x y (c.update f s))
    (hcb : ∀ n x y, good n x →
      Triple (F.At x.cur n x y) cb (fun _ => F.At x.cur n x y) fun _ _ => False)
    (type : CtrlType) (v : ℤ) :
    Triple (F.Holds good) (v4l2SCtrl c cb type v) (fun _ => F.Holds good)
      (fun _ => F.Holds good) := by
  refine v4l2SCtrl_triple (fun w => ?_) (E := fun _ => F.Holds good)
    fun s hs => hs
  apply Holds.triple
  intro x y hx hy
  apply v4l2CtrlSCtrl_triple (S := F.At x.cur (F.height + y.cur) x y)
    (T := F.At x.cur (F.height + y.cur) x y)
  · exact fun s hs => hother _ (hother _ hs)
  · exact fun s hs _ => hs.holds hx hy
  · exact (hcb _ x y hx).consequence (fun _ hs => hs) (fun _ _ hs => hs)
      fun _ _ hs => hs.elim
  · exact fun s hs => (hother Ctrl.newToCur hs).holds hx hy

end FrameTiming

end Kernel
end SurfaceCameras
