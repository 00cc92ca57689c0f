import SurfaceCameras.Ov5693.FrameRegisters
import SurfaceCameras.Ov5693.FramedRuns
import SurfaceCameras.Ov5693.System

/-!
# Exposure and frame length on the wire of the OV5693

The sensor must never hold an exposure that does not end before the frame.  The
driver writes the vertical blanking and the exposure one after the other, and
either the old frame or the new one has to have room for the exposure that is in
the registers.  A format call on a streaming sensor may leave the frame length
of the old format there, so the law is one of streams whose format was set
before they were started.
-/

namespace SurfaceCameras
namespace Ov5693

open Kernel Device Prog Runs MaskedWrites FixedWidth FrameTiming

/-- The exposure in the registers ends within the frame in the registers, with
the margin of the driver. -/
def FitsFrame (s : System) : Prop :=
  (exposureRegister s.bus.regs : ℤ) ≤
    vtsRegister s.bus.regs - integrationTimeMargin

instance (s : System) : Decidable (FitsFrame s) :=
  inferInstanceAs (Decidable (_ ≤ _))

/-! ## Control writes -/

theorem margin_fitting :
    Fitting (EndsBefore integrationTimeMargin)
      (Confined integrationTimeMargin) :=
  confined_fitting (by decide)

/-- A sensor in use for a format of height `H`, whose registers hold what the
controls say; no exposure of the control reaches beyond the frame, and none that
was written did. -/
abbrev InMargin (H : ℤ) : System × Journal → Prop :=
  (timing H (EndsBefore integrationTimeMargin)).Holds
    (Confined integrationTimeMargin)

section Writes

variable {H : ℤ} (hH : 9 ≤ H)
include hH

/-- The exposure range that follows the vertical blanking is confined to the
new frame. -/
theorem recordAdjust_confined :
    (timing H (EndsBefore integrationTimeMargin)).Adjusts
      (Confined integrationTimeMargin) recordAdjust := by
  intro n x y hn hx hlo hhi
  have hlo : timingMinVts ≤ y.val := hlo
  have hm : 1 ≤ H + y.val - integrationTimeMargin := by
    simp only [timingMinVts] at hlo
    simp only [integrationTimeMargin]
    omega
  let m := H + y.val - integrationTimeMargin
  refine ⟨x.ranged 1 m (min x.val m), x.ranged_within hm _, ?_⟩
  intro s hs
  have hexp : s.1.dev.exposure = x := hs.exposure
  have hvb : s.1.dev.vblank = y := hs.vblank
  have hheight : (s.1.dev.mode.format.height : ℤ) = H := hs.shows.height
  unfold recordAdjust recordLimit
  rw [Prog.bind_ok (Prog.gets_apply _ _), Prog.bind_ok (Prog.gets_apply _ _),
    hheight, hexp, hvb]
  exact limitExposure_at margin_fitting recordApply_bringsExposure hn hx hm s hs

/-- Every control write keeps the exposure within the frame. -/
theorem recordControl_inMargin (i : CtrlId) (v : ℤ) :
    Triple (InMargin H) (recordControl i v) (fun _ => InMargin H)
      (fun _ => InMargin H) := by
  apply Triple.ite
  · exact fun _ => Triple.raise fun _ hs => hs
  intro hblank
  cases i with
  | hblank => exact absurd rfl hblank
  | exposure =>
      rw [recordSCtrl_of_ne (by decide)]
      exact (writeExposure_holds margin_fitting recordApply_bringsExposure
        v).consequence (fun _ hs => hs) (fun _ _ hs => hs) fun _ _ hs => hs.elim
  | vblank =>
      unfold recordSCtrl
      rw [Prog.when_pos rfl]
      exact (writeVblank_holds margin_fitting (recordAdjust_confined hH)
        recordApply_bringsVblank v).consequence (fun _ hs => hs)
          (fun _ _ hs => hs) fun _ _ hs => hs.elim
  | hflip | vflip | analogueGain | digitalGain | testPattern =>
      rw [recordSCtrl_of_ne (by decide)]
      apply writeOther_holds
      · exact fun f hs => at_updateOther (by decide) (by decide) f hs
      · exact fun n x y hx => recordApply_other (by decide) (by decide)
          (by decide) (margin_fitting.fits_cur hx)

theorem writes_inMargin {s : System × Journal} (hs : InMargin H s)
    (ws : List (CtrlId × ℤ)) : InMargin H (run recordWrite s ws) := by
  induction ws generalizing s with
  | nil => exact hs
  | cons w ws ih => exact ih ((recordControl_inMargin hH w.1 w.2).final hs)

end Writes

/-! ## Starting the stream -/

/-- The sensor in use holds the exposure and the frame length of the
controls. -/
structure Loaded (s : System) : Prop where
  exposed : Exposed s
  vts : (vtsRegister s.bus.regs : ℤ) =
    (s.dev.mode.format.height + s.dev.vblank.cur) % 256 ^ 2

theorem handlerSetup_loaded :
    Triple (fun s => s.dev.pm.InUse) handlerSetup (fun _ => Loaded)
      (fun _ _ => True) := by
  intro s huse
  have hexposed := handlerSetup_exposed s huse
  have hvblank := handlerSetup_writes (i := .vblank) (m := s.dev.mode)
    (v := s.dev.vblank.cur) (r := s.bus.regs) (by decide) (by decide) s
      ⟨huse, rfl, rfl, fun _ _ => rfl⟩
  revert hexposed hvblank
  rcases handlerSetup s with ⟨_ | _, t⟩
  · exact fun _ _ => trivial
  · intro hexposed hvblank
    have hvblank : Holding .vblank s.dev.mode s.dev.vblank.cur _ t := hvblank
    have hcur : t.dev.vblank.cur = s.dev.vblank.cur := hvblank.cur
    refine ⟨hexposed, ?_⟩
    rw [hvblank.mode, hcur]
    apply word_written (n := 2) (r := s.bus.regs)
    intro k hk
    have haddr : ∀ k < 2, timingVtsReg + k ∈ ctrlAddrs .vblank := by decide
    exact hvblank.regs _ (haddr k hk)

theorem Loaded.of_apart {s t : System} (hs : Loaded s)
    (hexp : Apart .exposure s t) (hvb : Apart .vblank s t) : Loaded t where
  exposed := hs.exposed.of_apart hexp
  vts := by
    have hctrl : t.dev.vblank = s.dev.vblank := hvb.ctrl
    rw [vtsRegister_congr hvb.regs, hvb.mode, hctrl]
    exact hs.vts

theorem enableStreaming_loaded :
    Triple Loaded (enableStreaming true) (fun _ => Loaded)
      (fun _ _ => True) := by
  have hstays : ∀ i, mipiCtrl00Reg ∉ ctrlAddrs i → swStreamReg ∉ ctrlAddrs i →
      Stays (apart i) (enableStreaming true) := fun i hA hA' =>
    enableStreaming_stays (apart_admits i).toAdmitsBus hA hA' true
  intro s hs
  have hexp := hstays .exposure (by decide) (by decide) s s
    ((apart .exposure).refl s)
  have hvb := hstays .vblank (by decide) (by decide) s s
    ((apart .vblank).refl s)
  revert hexp hvb
  rcases enableStreaming true s with ⟨_ | _, t⟩
  · exact fun _ _ => trivial
  · exact fun hexp hvb => hs.of_apart hexp hvb

section Parameters

variable (binnedYOffset : ℤ)

/-- A start of the stream that succeeds loads the controls. -/
theorem start_loaded :
    Triple (fun _ => True) (sStream binnedYOffset true) (fun _ => Loaded)
      (fun _ _ => True) := by
  have hresume : Triple (fun _ => True)
      (pmRuntimeResumeAndGet pmField.ofDev (sensorResume binnedYOffset))
      (fun _ s => s.dev.pm.InUse) (fun _ _ => True) := by
    intro s _
    apply (pmRuntimeResumeAndGet_usage (resume_keeps_pm binnedYOffset)
      s.dev.pm.usage).consequence (fun _ hs => hs) ?_ (fun _ _ _ => trivial) s
        rfl
    rintro _ t ⟨hactive, husage⟩
    have husage : t.dev.pm.usage = s.dev.pm.usage + 1 := husage
    exact ⟨hactive, husage ▸ Nat.succ_pos _⟩
  apply Triple.bind hresume
  intro _
  apply Triple.tryCatch (J := fun _ _ => True)
  · exact handlerSetup_loaded.bind fun _ => enableStreaming_loaded
  · exact fun e =>
      Triple.bind (Triple.any _) fun _ => Triple.raise fun _ _ => trivial

/-! ## Streams -/

/-- Where the controls are in step with the format and loaded, control writes
may begin. -/
theorem Loaded.inMargin {s : System} (hs : Loaded s) (hclean : s.Clean)
    (hf : Framed s.dev) : InMargin s.dev.mode.format.height (s, []) := by
  obtain ⟨hge, hexp, hmax, hvb, hvbmin, hvbmax⟩ := hf
  have hlo := hexp.settled.min_le
  have hhi := hexp.settled.le_max
  have hvblo := hvb.min_le
  have hvbhi := hvb.le_max
  rw [hexp.minimum] at hlo
  rw [hvbmin] at hvblo
  rw [hvbmax] at hvbhi
  have hmargin : integrationTimeMargin = 8 := rfl
  have hvts : (timingMaxVts : ℤ) = 65535 := rfl
  have hmin : timingMinVts = 4 := rfl
  refine ⟨⟨hclean, hs.exposed.1, rfl, ?_, ?_, ?_⟩, ?_, ?_⟩
  · unfold exposureRegister
    rw [hs.exposed.2]
    exact exposureBits_lines (by omega) (by omega)
  · exact hs.vts.trans (Int.emod_eq_of_lt (by omega) (by omega))
  · exact fun _ hx => absurd hx List.not_mem_nil
  · have hval := hexp.settled.val_eq
    exact
      { minimum := hexp.minimum
        le_maximum := le_trans hlo hhi
        maximum_le := le_of_eq hmax
        step := hexp.step
        le_val := hval.symm ▸ hlo
        val_le := hval.symm ▸ le_trans hhi (le_of_eq hmax)
        le_cur := hlo
        cur_le := le_trans hhi (le_of_eq hmax) }
  · exact ⟨le_of_eq hvbmin.symm, le_of_eq hvbmax, hvb.min_le, hvb.le_max⟩

section Streams

variable (regs : Registers) (before : List Call) {s s₀ s₁ : System}
  (hs : run (step binnedYOffset) (probe regs) before = s)
  {w h : BitVec 32} {fmt : MbusFramefmt}
  (hset : setFmt .active w h s = (.ok fmt, s₀)) (hge : 9 ≤ fmt.height)
  {between : List Call}
  (hkept : Throughout (step binnedYOffset)
    (fun t => t.dev.mode.format = fmt) s₀ between)
  (hstart : sStream binnedYOffset true
    (run (step binnedYOffset) s₀ between) = (.ok (), s₁))
include hs hset hge hkept hstart

/-- A stream whose format, of at least nine lines, was set before it was
started is ready for control writes. -/
theorem start_inMargin :
    9 ≤ s₁.dev.mode.format.height ∧
      InMargin s₁.dev.mode.format.height (s₁, []) := by
  have hready : Ready s := hs ▸ run_ready binnedYOffset regs before
  have hready₀ : Ready s₀ := by
    have hstep := step_ready binnedYOffset hready (.setFmt .active w h)
    rw [step, hset] at hstep
    exact hstep
  have hformat := setFmt_framed hready hset hge
  obtain ⟨hready', hframed'⟩ := run_framed binnedYOffset hready₀ hformat.1 hkept
  have hloaded := start_loaded binnedYOffset
    (run (step binnedYOffset) s₀ between) trivial
  have hrun := sStream_performs binnedYOffset true _ hready'.clean
  have hframed := sStream_framed binnedYOffset true _ hframed'
  rw [hstart] at hloaded hrun
  have hend : s₁ = Machine.after _ _ := congrArg Prod.snd hrun
  have hclean : s₁.Clean := hend ▸ hready'.clean
  have hdev : s₁.dev = _ := congrArg Machine.dev hend
  rw [Machine.after_dev] at hdev
  rw [← hdev] at hframed
  exact ⟨hframed.height_ge, hloaded.inMargin hclean hframed⟩

/-- In such a stream, control writes never put an exposure in the registers that
does not fit the frame there. -/
theorem writes_fitFrame (ws : List (CtrlId × ℤ)) :
    ∀ x ∈ (run recordWrite (s₁, []) ws).2, FitsFrame x.2 := by
  obtain ⟨hheight, hready⟩ :=
    start_inMargin binnedYOffset regs before hs hset hge hkept hstart
  exact (writes_inMargin (Nat.cast_le.mpr hheight) hready ws).shows.journal

theorem run_fitsFrame (ws : List (CtrlId × ℤ)) :
    FitsFrame (run (fun t w => step binnedYOffset t (.write w.1 w.2)) s₁ ws) := by
  obtain ⟨hheight, hready⟩ :=
    start_inMargin binnedYOffset regs before hs hset hge hkept hstart
  have hrun := writes_inMargin (Nat.cast_le.mpr hheight) hready ws
  have hshows := hrun.shows
  have hle := hrun.good.cur_le
  rw [← run_recordWrite_fst binnedYOffset (s₁, []) ws]
  unfold FitsFrame
  rw [hshows.exposure, hshows.vts]
  exact hle

end Streams

end Parameters

end Ov5693
end SurfaceCameras
