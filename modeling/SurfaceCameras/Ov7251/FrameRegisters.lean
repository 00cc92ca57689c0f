import SurfaceCameras.Kernel.FrameTiming
import SurfaceCameras.Ov7251.Encoding

/-!
# Exposure and frame length in the registers of the OV7251

A control brought to the sensor changes the exposure, the frame length or
neither of them.  So a control write keeps the registers and the controls
together, and the journal has what the registers held in between.
-/

namespace SurfaceCameras
namespace Ov7251

open Kernel Device Prog Runs

/-! ## The registers of one control -/

theorem exposureRegister_congr (d d' : Device)
    (h : ∀ a ∈ ctrlAddrs .exposure, d'.bus.regs a = d.bus.regs a) :
    exposureRegister d' = exposureRegister d := by
  unfold exposureRegister
  rw [h 0x3500 (by decide), h 0x3501 (by decide), h 0x3502 (by decide)]

theorem vtsRegister_congr (d d' : Device)
    (h : ∀ a ∈ ctrlAddrs .vblank, d'.bus.regs a = d.bus.regs a) :
    vtsRegister d' = vtsRegister d := by
  unfold vtsRegister
  rw [h 0x380e (by decide), h 0x380f (by decide)]

section Parameters

variable (par : Params)

theorem writeCtrl_fixed {τ : Type} {f : Device → τ} {i j : CtrlId}
    (hf : ∀ d d', (∀ a ∈ ctrlAddrs j, d'.bus.regs a = d.bus.regs a) →
      f d' = f d) (hij : i ≠ j) (v : ℤ) (d : Device) :
    f (writeCtrl par i v d).2 = f d := by
  have hstays : Stays (Frame.fixing f) (writeCtrl par i v) :=
    writeCtrl_stays (registers_admits fun d b h => hf d { d with bus := b } h)
      (fun d _ => hf d _ fun _ _ => rfl) (fun d _ => hf d _ fun _ _ => rfl)
      (fun d _ => hf d _ fun _ _ => rfl) par (ctrlAddrs_disjoint hij) v
  exact hstays.fixed d

/-! ## Bringing a control to the sensor -/

theorem recordApply_of_not {d : Device} (h : ¬ d.pm.InUse) (i : CtrlId)
    (g : Journal) : recordApply par i (d, g) = (.ok (), (d, g)) := by
  unfold recordApply
  rw [Prog.bind_ok (beside_ok (pmRuntimeGetIfInUse_of_not pmField h) g)]
  rfl

/-- With the device in use, the value goes to the sensor, and the journal gets
an entry. -/
theorem recordApply_of_inUse {d d₁ : Device} (h : d.pm.InUse) {i : CtrlId}
    (hw : writeCtrl par i ((ctrlField i).get d).val
      (pmField.update RuntimePm.get d) = (.ok (), d₁)) (g : Journal) :
    recordApply par i (d, g) =
      (.ok (), (pmField.update RuntimePm.put d₁, (i, d₁) :: g)) := by
  have hctrl : (ctrlField i).get (pmField.update RuntimePm.get d) =
      (ctrlField i).get d := by
    cases i <;> rfl
  unfold recordApply
  rw [Prog.bind_ok (beside_ok (pmRuntimeGetIfInUse_of_inUse pmField h) g),
    if_pos rfl, Prog.bind_ok (Prog.gets_apply _ _), hctrl]
  unfold Prog.tryFinally
  rw [Prog.bind_ok (beside_ok hw g)]
  rfl

/-- Every transfer succeeds, the registers of a sensor in use hold the exposure
`e` and the frame length `n`, and what they held at an entry of the journal
went together. -/
structure ShowsFrame (fits : ℤ → ℤ → Prop) (e n : ℤ) (s : Device × Journal) :
    Prop where
  clean : Clean s.1
  registers : s.1.pm.InUse →
    (exposureRegister s.1 : ℤ) = e ∧ (vtsRegister s.1 : ℤ) = n
  journal : ∀ w ∈ s.2, fits (exposureRegister w.2) (vtsRegister w.2)

/-- The controls and the registers of the OV7251 beside a journal. -/
def timing (fits : ℤ → ℤ → Prop) : FrameTiming (Device × Journal) where
  exposure := exposureField.aside
  vblank := vblankField.aside
  height := 480
  minimum := timingMinVts
  Shows := ShowsFrame fits
  vblank_exposure _ _ := rfl
  exposure_vblank _ _ := rfl
  shows_exposure _ h := ⟨h.clean, h.registers, h.journal⟩
  shows_vblank _ h := ⟨h.clean, h.registers, h.journal⟩

variable {fits : ℤ → ℤ → Prop} {e n e' n' : ℤ} {x y : Ctrl}

/-- A control is brought to the sensor; `hregs` says what that makes of the
registers. -/
theorem recordApply_at (i : CtrlId) (hfits : fits e' n')
    (hregs : ∀ d d₁ : Device,
      writeCtrl par i ((ctrlField i).get d).val d = (.ok (), d₁) →
        d.exposure = x → d.vblank = y → (exposureRegister d : ℤ) = e →
          (vtsRegister d : ℤ) = n →
            (exposureRegister d₁ : ℤ) = e' ∧ (vtsRegister d₁ : ℤ) = n') :
    Triple ((timing fits).At e n x y) (recordApply par i)
      (fun _ => (timing fits).At e' n' x y) (fun _ _ => False) := by
  rintro ⟨d, g⟩ ⟨hshow, hx, hy⟩
  by_cases huse : d.pm.InUse
  · have hclean : Clean (pmField.update RuntimePm.get d) := hshow.clean
    obtain ⟨d₁, hw, h₁⟩ := writeCtrl_does par i ((ctrlField i).get d).val _
      hclean
    have hctrl : (ctrlField i).get (pmField.update RuntimePm.get d) =
        (ctrlField i).get d := by
      cases i <;> rfl
    obtain ⟨he, hn⟩ := hshow.registers huse
    obtain ⟨he', hn'⟩ := hregs (pmField.update RuntimePm.get d) d₁
      (by rw [hctrl, hw]) hx hy he hn
    rw [recordApply_of_inUse par huse hw]
    have hentry : fits (exposureRegister d₁) (vtsRegister d₁) := by
      rw [he', hn']
      exact hfits
    exact ⟨⟨h₁.clean hclean, fun _ => ⟨he', hn'⟩,
      List.forall_mem_cons.mpr ⟨hentry, hshow.journal⟩⟩,
      h₁.exposure.trans hx, h₁.vblank.trans hy⟩
  · rw [recordApply_of_not par huse]
    exact ⟨⟨hshow.clean, fun h => absurd h huse, hshow.journal⟩, hx, hy⟩

theorem recordApply_bringsExposure :
    (timing fits).BringsExposure fits (recordApply par .exposure) := by
  intro e n x y hlo hhi hfits
  apply recordApply_at par .exposure hfits
  intro d d₁ hw hx _ _ hn
  have hval : ((ctrlField .exposure).get d).val = x.val := congrArg Ctrl.val hx
  rw [hval] at hw
  have hwritten := writeCtrl_encodes par (i := .exposure) hlo hhi d trivial
  have hkept := writeCtrl_fixed par (i := .exposure) vtsRegister_congr
    (by decide) x.val d
  rw [hw] at hwritten hkept
  exact ⟨hwritten, (congrArg Nat.cast hkept).trans hn⟩

theorem recordApply_bringsVblank :
    (timing fits).BringsVblank fits (recordApply par .vblank) := by
  intro e n x y hlo hhi hfits
  have hhi : y.val ≤ highest .vblank := by
    have hhi : 480 + y.val ≤ 65535 := hhi
    simp only [highest, timingMaxVts]
    omega
  apply recordApply_at par .vblank hfits
  intro d d₁ hw _ hy he _
  have hval : ((ctrlField .vblank).get d).val = y.val := congrArg Ctrl.val hy
  rw [hval] at hw
  have hwritten := writeCtrl_encodes par (i := .vblank) hlo hhi d trivial
  have hkept := writeCtrl_fixed par (i := .vblank) exposureRegister_congr
    (by decide) y.val d
  rw [hw] at hwritten hkept
  have hwritten : (vtsRegister d₁ : ℤ) = d₁.height par + y.val := hwritten
  rw [Device.height_eq] at hwritten
  exact ⟨(congrArg Nat.cast hkept).trans he, hwritten⟩

/-- The other controls have registers of their own. -/
theorem recordApply_other {i : CtrlId} (he : i ≠ .exposure) (hv : i ≠ .vblank)
    (hfits : fits e n) :
    Triple ((timing fits).At e n x y) (recordApply par i)
      (fun _ => (timing fits).At e n x y) (fun _ _ => False) := by
  apply recordApply_at par i hfits
  intro d d₁ hw _ _ hexp hvts
  have hexp' := writeCtrl_fixed par exposureRegister_congr he
    ((ctrlField i).get d).val d
  have hvts' := writeCtrl_fixed par vtsRegister_congr hv
    ((ctrlField i).get d).val d
  rw [hw] at hexp' hvts'
  exact ⟨(congrArg Nat.cast hexp').trans hexp,
    (congrArg Nat.cast hvts').trans hvts⟩

theorem at_updateOther {i : CtrlId} (he : i ≠ .exposure) (hv : i ≠ .vblank)
    {s : Device × Journal} (f : Ctrl → Ctrl)
    (hs : (timing fits).At e n x y s) :
    (timing fits).At e n x y ((ctrlField i).aside.update f s) := by
  obtain ⟨⟨hclean, hregs, hjournal⟩, hx, hy⟩ := hs
  cases i with
  | exposure => exact absurd rfl he
  | vblank => exact absurd rfl hv
  | hflip | vflip | analogueGain | testPattern =>
      exact ⟨⟨hclean, hregs, hjournal⟩, hx, hy⟩

/-! ## Control writes -/

theorem recordSCtrl_of_ne {i : CtrlId} (hv : i ≠ .vblank) :
    recordSCtrl par i = recordApply par i := by
  unfold recordSCtrl
  rw [Prog.when_neg hv]
  rfl

variable {good : ℤ → Ctrl → Prop}

/-- The exposure range that follows the vertical blanking is good for the new
frame. -/
theorem recordAdjust_adjusts (hfit : FrameTiming.Fitting fits good)
    (hfollow : ∀ n n' x dflt, good n x → n' ≤ 65535 →
      1 ≤ n' - exposureMargin par →
        good n' (x.ranged 1 (n' - exposureMargin par) dflt)) :
    (timing fits).Adjusts good (recordAdjust par) := by
  intro n x y hn hx hlo hhi
  have hmargin := exposureMargin_le par
  have hlo : timingMinVts ≤ y.val := hlo
  have hm : 1 ≤ 480 + y.val - exposureMargin par := by
    simp only [timingMinVts] at hlo
    omega
  let m := 480 + y.val - exposureMargin par
  refine ⟨x.ranged 1 m (min x.val m), hfollow n _ x _ hx hhi hm, ?_⟩
  intro s hs
  have hexp : s.1.exposure = x := hs.exposure
  have hvb : s.1.vblank = y := hs.vblank
  unfold recordAdjust
  rw [Prog.bind_ok (Prog.gets_apply _ _), Prog.bind_ok (Prog.gets_apply _ _),
    Prog.bind_ok (Prog.gets_apply _ _), Device.height_eq, hexp, hvb]
  exact FrameTiming.limitExposure_at hfit (recordApply_bringsExposure par) hn hx
    hm s hs

/-- Every control write keeps the registers and the controls together. -/
theorem recordControl_holds (hfit : FrameTiming.Fitting fits good)
    (hadjust : (timing fits).Adjusts good (recordAdjust par)) (i : CtrlId)
    (v : ℤ) :
    Triple ((timing fits).Holds good) (recordControl par i v)
      (fun _ => (timing fits).Holds good) (fun _ => (timing fits).Holds good) := by
  unfold recordControl
  cases i with
  | exposure =>
      rw [recordSCtrl_of_ne par (by decide)]
      exact (FrameTiming.writeExposure_holds hfit
        (recordApply_bringsExposure par) v).consequence (fun _ hs => hs)
          (fun _ _ hs => hs) fun _ _ hs => hs.elim
  | vblank =>
      unfold recordSCtrl
      rw [Prog.when_pos rfl]
      exact (FrameTiming.writeVblank_holds hfit hadjust
        (recordApply_bringsVblank par) v).consequence (fun _ hs => hs)
          (fun _ _ hs => hs) fun _ _ hs => hs.elim
  | hflip | vflip | analogueGain | testPattern =>
      rw [recordSCtrl_of_ne par (by decide)]
      apply FrameTiming.writeOther_holds
      · exact fun f hs => at_updateOther (by decide) (by decide) f hs
      · exact fun n x y hx => recordApply_other par (by decide) (by decide)
          (hfit.fits_cur hx)

end Parameters

end Ov7251
end SurfaceCameras
