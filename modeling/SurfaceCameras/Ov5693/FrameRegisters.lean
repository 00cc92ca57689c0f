import SurfaceCameras.Kernel.FrameTiming
import SurfaceCameras.Ov5693.HandlerImage
import SurfaceCameras.Ov5693.Journal

/-!
# Exposure and frame length in the registers of the OV5693

A control brought to the sensor changes the exposure, the frame length or
neither of them.  So a control write keeps the registers and the controls
together, and the journal has what the registers held in between.
-/

namespace SurfaceCameras
namespace Ov5693

open Kernel Device Prog Runs MaskedWrites FixedWidth FrameTiming

/-! ## The two registers -/

/-- The exposure in the registers, in lines. -/
def exposureRegister (r : Registers) : ℕ := word r exposureCtrlReg 3 / 16

/-- The frame length in the registers. -/
def vtsRegister (r : Registers) : ℕ := word r timingVtsReg 2

theorem exposureRegister_congr {r r' : Registers}
    (h : ∀ a ∈ ctrlAddrs .exposure, r' a = r a) :
    exposureRegister r' = exposureRegister r := by
  have haddr : ∀ k < 3, exposureCtrlReg + k ∈ ctrlAddrs .exposure := by decide
  unfold exposureRegister
  rw [word_congr fun k hk => h _ (haddr k hk)]

theorem vtsRegister_congr {r r' : Registers}
    (h : ∀ a ∈ ctrlAddrs .vblank, r' a = r a) :
    vtsRegister r' = vtsRegister r := by
  have haddr : ∀ k < 2, timingVtsReg + k ∈ ctrlAddrs .vblank := by decide
  exact word_congr fun k hk => h _ (haddr k hk)

theorem exposureBits_lines {v : ℤ} (hlo : 0 ≤ v) (hhi : v ≤ 65535) :
    ((exposureBits v / 16 : ℕ) : ℤ) = v := by
  have hfield := field_toNat (BitVec.ofInt 32 v <<< 4) 0xffff0#32 (k := 4)
    (n := 16) rfl
  rw [BitVec.toNat_ushiftRight, Nat.shiftRight_eq_div_pow,
    BitVec.toNat_shiftLeft, BitVec.toNat_ofInt, Nat.shiftLeft_eq] at hfield
  have hbits : exposureBits v / 16 = _ := hfield
  rw [hbits]
  omega

theorem exposureRegister_written (m : Mode) (r : Registers) {v : ℤ}
    (hlo : 0 ≤ v) (hhi : v ≤ 65535) :
    (exposureRegister (applyAll (ctrlWrites .exposure m v) r) : ℤ) = v := by
  have hword := word_exposure r v
  rw [storeBytes_eq_applyAll] at hword
  have hlines := exposureBits_lines hlo hhi
  rw [← hword] at hlines
  exact hlines

theorem vtsRegister_written (m : Mode) (r : Registers) {v : ℤ}
    (hlo : 0 ≤ m.format.height + v) (hhi : m.format.height + v ≤ 65535) :
    (vtsRegister (applyAll (ctrlWrites .vblank m v) r) : ℤ) =
      m.format.height + v := by
  have hword := word_bigEndian r timingVtsReg 2 (m.format.height + v)
  exact hword.trans (Int.emod_eq_of_lt hlo (by omega))

theorem ctrlWrites_apart {i j : CtrlId} (hij : i ≠ j) (m : Mode) (v : ℤ)
    (r : Registers) :
    ∀ a ∈ ctrlAddrs j, applyAll (ctrlWrites i m v) r a = r a := by
  intro a ha
  apply applyAll_of_notMem
  rw [footprint_ctrlWrites]
  exact fun hmem => ctrlAddrs_disjoint hij a hmem ha

/-! ## Bringing a control to the sensor -/

/-- With the device in use, the value goes to the sensor, and the journal gets
an entry. -/
theorem recordApply_of_inUse {s : System} (hs : s.Clean)
    (huse : s.dev.pm.InUse) {i : CtrlId} (hi : i ≠ .hblank) (g : Journal) :
    ∃ t : System,
      t.bus.regs = applyAll
          (ctrlWrites i s.dev.mode ((ctrlField i).get s.dev).val) s.bus.regs ∧
        recordApply i (s, g) = (.ok (), (s.after (s.dev,
          ctrlWrites i s.dev.mode ((ctrlField i).get s.dev).val), (i, t) :: g)) := by
  let s₁ : System := pmField.ofDev.update RuntimePm.get s
  let ws := ctrlWrites i s.dev.mode ((ctrlField i).get s.dev).val
  have hclean : s₁.Clean := hs
  have hwrite : writeCtrl i ((ctrlField i).get s.dev).val s₁ =
      (.ok (), s₁.after (s₁.dev, ws)) := writeCtrl_performs hi _ s₁ hclean
  have hctrl : (ctrlField i).get s₁.dev = (ctrlField i).get s.dev :=
    get_get i RuntimePm.get s.dev
  refine ⟨s₁.after (s₁.dev, ws), rfl, ?_⟩
  unfold recordApply
  rw [Prog.bind_ok (beside_ok (pmRuntimeGetIfInUse_of_inUse pmField.ofDev
    huse) g), if_pos rfl, Prog.bind_ok (Prog.gets_apply _ _)]
  unfold Prog.tryFinally
  rw [hctrl, Prog.bind_ok (beside_ok hwrite g)]
  have hput := get_put_of_inUse huse
  exact congrArg (fun d => ((.ok (), (s.after (d, ws),
    (i, s₁.after (s₁.dev, ws)) :: g)) :
      Except Fault Unit × System × Journal)) hput

/-- Every transfer succeeds, the sensor is in use for a format of height `H`,
its registers hold the exposure `e` and the frame length `n`, and what they held
at an entry of the journal went together. -/
structure ShowsFrame (H : ℤ) (fits : ℤ → ℤ → Prop) (e n : ℤ)
    (s : System × Journal) : Prop where
  clean : s.1.Clean
  inUse : s.1.dev.pm.InUse
  height : (s.1.dev.mode.format.height : ℤ) = H
  exposure : (exposureRegister s.1.bus.regs : ℤ) = e
  vts : (vtsRegister s.1.bus.regs : ℤ) = n
  journal : ∀ w ∈ s.2,
    fits (exposureRegister w.2.bus.regs) (vtsRegister w.2.bus.regs)

/-- The controls and the registers of the OV5693 beside a journal. -/
def timing (H : ℤ) (fits : ℤ → ℤ → Prop) : FrameTiming (System × Journal) where
  exposure := exposureField.ofDev.aside
  vblank := vblankField.ofDev.aside
  height := H
  minimum := timingMinVts
  Shows := ShowsFrame H fits
  vblank_exposure _ _ := rfl
  exposure_vblank _ _ := rfl
  shows_exposure _ h := { h with }
  shows_vblank _ h := { h with }

variable {H : ℤ} {fits : ℤ → ℤ → Prop} {e n e' n' : ℤ} {x y : Ctrl}

/-- A control is brought to the sensor; `hregs` says what that makes of the
registers. -/
theorem recordApply_at {i : CtrlId} (hi : i ≠ .hblank) (hfits : fits e' n')
    (hregs : ∀ (d : Device) (r : Registers),
      d.exposure = x → d.vblank = y → (d.mode.format.height : ℤ) = H →
        (exposureRegister r : ℤ) = e → (vtsRegister r : ℤ) = n →
          (exposureRegister (applyAll (ctrlWrites i d.mode
              ((ctrlField i).get d).val) r) : ℤ) = e' ∧
            (vtsRegister (applyAll (ctrlWrites i d.mode
              ((ctrlField i).get d).val) r) : ℤ) = n') :
    Triple ((timing H fits).At e n x y) (recordApply i)
      (fun _ => (timing H fits).At e' n' x y) (fun _ _ => False) := by
  rintro ⟨s, g⟩ ⟨hshow, hx, hy⟩
  obtain ⟨t, ht, hrun⟩ := recordApply_of_inUse hshow.clean hshow.inUse hi g
  obtain ⟨he, hn⟩ := hregs s.dev s.bus.regs hx hy hshow.height hshow.exposure
    hshow.vts
  rw [hrun]
  have hentry : fits (exposureRegister t.bus.regs) (vtsRegister t.bus.regs) := by
    rw [ht, he, hn]
    exact hfits
  exact ⟨⟨hshow.clean, hshow.inUse, hshow.height, he, hn,
    List.forall_mem_cons.mpr ⟨hentry, hshow.journal⟩⟩, hx, hy⟩

theorem recordApply_bringsExposure :
    (timing H fits).BringsExposure fits (recordApply .exposure) := by
  intro e n x y hlo hhi hfits
  apply recordApply_at (by decide) hfits
  intro d r hx _ _ _ hn
  have hval : ((ctrlField .exposure).get d).val = x.val := congrArg Ctrl.val hx
  rw [hval]
  have hkept := vtsRegister_congr
    (ctrlWrites_apart (i := .exposure) (by decide) d.mode x.val r)
  exact ⟨exposureRegister_written d.mode r (by omega) hhi,
    (congrArg Nat.cast hkept).trans hn⟩

theorem recordApply_bringsVblank :
    (timing H fits).BringsVblank fits (recordApply .vblank) := by
  intro e n x y hlo hhi hfits
  apply recordApply_at (by decide) hfits
  intro d r _ hy hheight he _
  have hval : ((ctrlField .vblank).get d).val = y.val := congrArg Ctrl.val hy
  have hlo : timingMinVts ≤ y.val := hlo
  have hhi : H + y.val ≤ 65535 := hhi
  simp only [timingMinVts] at hlo
  rw [hval]
  have hkept := exposureRegister_congr
    (ctrlWrites_apart (i := .vblank) (by decide) d.mode y.val r)
  have hwritten := vtsRegister_written d.mode r (v := y.val) (by omega)
    (by omega)
  exact ⟨(congrArg Nat.cast hkept).trans he,
    hwritten.trans (congrArg (· + y.val) hheight)⟩

theorem recordApply_other {i : CtrlId} (he : i ≠ .exposure) (hv : i ≠ .vblank)
    (hi : i ≠ .hblank) (hfits : fits e n) :
    Triple ((timing H fits).At e n x y) (recordApply i)
      (fun _ => (timing H fits).At e n x y) (fun _ _ => False) := by
  apply recordApply_at hi hfits
  intro d r _ _ _ hexp hvts
  have hexp' := exposureRegister_congr
    (ctrlWrites_apart he d.mode ((ctrlField i).get d).val r)
  have hvts' := vtsRegister_congr
    (ctrlWrites_apart hv d.mode ((ctrlField i).get d).val r)
  exact ⟨(congrArg Nat.cast hexp').trans hexp,
    (congrArg Nat.cast hvts').trans hvts⟩

theorem at_updateOther {i : CtrlId} (he : i ≠ .exposure) (hv : i ≠ .vblank)
    {s : System × Journal} (f : Ctrl → Ctrl)
    (hs : (timing H fits).At e n x y s) :
    (timing H fits).At e n x y ((ctrlField i).ofDev.aside.update f s) := by
  obtain ⟨hshow, hx, hy⟩ := hs
  cases i with
  | exposure => exact absurd rfl he
  | vblank => exact absurd rfl hv
  | hflip | vflip | analogueGain | digitalGain | hblank | testPattern =>
      exact ⟨{ hshow with }, hx, hy⟩

/-! ## Control writes -/

theorem recordSCtrl_of_ne {i : CtrlId} (hv : i ≠ .vblank) :
    recordSCtrl i = recordApply i := by
  unfold recordSCtrl
  rw [Prog.when_neg hv]
  rfl

end Ov5693
end SurfaceCameras
