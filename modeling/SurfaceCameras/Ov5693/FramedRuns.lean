import SurfaceCameras.Ov5693.Timing

/-!
# Runs of the OV5693 driver with one format

A format call puts the exposure range and the vertical blanking in step with the
frame, whatever the crop rectangle and the controls were before.  From then on
no call that leaves the format as it is puts them out of step.
-/

namespace SurfaceCameras
namespace Ov5693

open Kernel Device Prog Runs

/-! ## The exposure control in every run -/

theorem formatEffect_exposable (hratio vratio width height : ℕ) :
    Maintains (fun d => Exposable d.exposure)
      (formatEffect hratio vratio width height) := by
  intro d hd
  have hline := hblankEffect_fixes (f := Device.exposure) (fun _ _ => rfl)
    (fixedPpl - width) (vblankEffect height (formatMode hratio vratio d)).1
  rw [formatEffect_eq]
  apply limitExposure_maintains
  rw [hline]
  exact vblankEffect_maintains height (formatMode hratio vratio d) hd

theorem setFmt_exposable (w h : BitVec 32) (which : Which) :
    Maintains (fun d => Exposable d.exposure) (setFmtEffect w h which) := by
  cases which with
  | active =>
      exact fun d hd => formatEffect_exposable _ _ _ _
        ((padState .active).update (formattedPad w h) d) hd
  | try_ i => exact fun _ hd => hd

theorem sStream_exposable (binnedYOffset : ℤ) (enable : Bool) :
    Maintains (fun d => Exposable d.exposure)
      (sStreamEffect binnedYOffset enable) := by
  apply sStream_maintains
  · exact fun _ _ hd => hd
  · exact fun _ _ hd => hd
  · intro id d hd
    apply sCtrl_maintains
    cases id with
    | exposure =>
        have hkept : d.exposure.curToNew = d.exposure :=
          Ctrl.curToNew_eq hd.settled.val_eq
        change Exposable d.exposure.curToNew
        rw [hkept]
        exact hd
    | analogueGain | digitalGain | hflip | vflip | hblank | vblank
    | testPattern => exact hd

theorem write_exposable (id : CtrlId) (v : ℤ) :
    Maintains (fun d => Exposable d.exposure) (writeEffect id v) := by
  intro d hd
  by_cases hv : id = .vblank
  · subst hv
    exact setVblank_maintains _ hd
  · rw [writeEffect_eq hv]
    cases id with
    | vblank => exact absurd rfl hv
    | exposure => exact hd.applied v
    | analogueGain | digitalGain | hflip | vflip | hblank | testPattern =>
        exact hd

section Parameters

variable (binnedYOffset : ℤ)

/-- What every run keeps: crop rectangles in the array, and an exposure control
in order. -/
structure Ready (s : System) : Prop extends CropsInArray s where
  exposable : Exposable s.dev.exposure

theorem step_ready {s : System} (hs : Ready s) (c : Call) :
    Ready (step binnedYOffset s c) := by
  refine ⟨step_cropsInArray binnedYOffset hs.toCropsInArray c, ?_⟩
  apply step_dev binnedYOffset (P := fun d => Exposable d.exposure)
    hs.toCropsInArray hs.exposable
  · exact fun which w h _ _ => setFmt_exposable w h which s.dev hs.exposable
  · intro which r _
    cases which <;> exact hs.exposable
  · exact fun id v _ _ => write_exposable id v s.dev hs.exposable
  · exact fun enable =>
      sStream_exposable binnedYOffset enable s.dev hs.exposable
  · exact hs.exposable
  · exact hs.exposable

theorem run_ready (regs : ℕ → BitVec 8) (calls : List Call) :
    Ready (run (step binnedYOffset) (probe regs) calls) := by
  apply run_induction (I := Ready)
  · exact fun _ c hs => step_ready binnedYOffset hs c
  · exact ⟨probe_cropsInArray regs, (probe_timed regs).timed.exposable⟩

/-! ## From a format call on -/

theorem Framed.of_format {d : Device} (hd : Framed d) {m : Mode}
    (h : m.format = d.mode.format) : Framed { d with mode := m } where
  height_ge := h ▸ hd.height_ge
  exposable := hd.exposable
  exposure_max := h ▸ hd.exposure_max
  vblank_settled := hd.vblank_settled
  vblank_minimum := hd.vblank_minimum
  vblank_maximum := h ▸ hd.vblank_maximum

theorem setFmt_answers (which : Which) (w h : BitVec 32) :
    Triple (fun _ => True) (setFmt which w h)
      (fun fmt s => fmt = ((padState which).get s.dev).format)
      (fun _ _ => True) := by
  refine Triple.bind (Triple.any _) fun crop => ?_
  refine Triple.bind (Triple.any _) fun hratio => ?_
  refine Triple.bind (Triple.any _) fun vratio => ?_
  refine Triple.bind (Triple.any _) fun _ => ?_
  refine Triple.bind (Triple.any _) fun _ => ?_
  exact Triple.gets fun _ _ => rfl

/-- A format call that returns a format of at least nine lines leaves exposure
and blanking in step with it. -/
theorem setFmt_framed {w h : BitVec 32} {s s' : System} {fmt : MbusFramefmt}
    (hs : Ready s) (hrun : setFmt .active w h s = (.ok fmt, s'))
    (hge : 9 ≤ fmt.height) : Framed s'.dev ∧ s'.dev.mode.format = fmt := by
  have hanswer := setFmt_answers .active w h s trivial
  rw [hrun] at hanswer
  have hanswer : fmt = s'.dev.mode.format := hanswer
  rcases setFmt_cases .active w h hs.toCropsInArray with
    ⟨-, hfail⟩ | ⟨huse, fmt', hok⟩
  · rw [hrun] at hfail
    have hbad : (.ok fmt : Except Fault MbusFramefmt) = .error .divideError :=
      congrArg Prod.fst hfail
    cases hbad
  · have hdev : s'.dev = (activeFmtEffect w h s.dev).1 := by
      rw [hrun] at hok
      exact congrArg (fun x => x.2.dev) hok
    refine ⟨?_, hanswer.symm⟩
    rw [hanswer, hdev] at hge
    rw [hdev]
    exact activeFmt_framed w h hs.exposable huse.min_height
      (hs.inArray .active).height_le hge

/-- A call that leaves the format as it was leaves exposure and blanking in step
with it. -/
theorem step_framed {s : System} (hs : Ready s) (hf : Framed s.dev) (c : Call)
    (hsame : (step binnedYOffset s c).dev.mode.format = s.dev.mode.format) :
    Framed (step binnedYOffset s c).dev := by
  revert hsame
  apply step_dev binnedYOffset (P := fun d =>
    d.mode.format = s.dev.mode.format → Framed d) hs.toCropsInArray
  · exact fun _ => hf
  · intro which w h _ huse hsame
    cases which with
    | active =>
        have hge : 9 ≤ (activeFmtEffect w h s.dev).1.mode.format.height := by
          have hsame : (activeFmtEffect w h s.dev).1.mode.format =
              s.dev.mode.format := hsame
          rw [hsame]
          exact hf.height_ge
        exact activeFmt_framed w h hs.exposable huse.min_height
          (hs.inArray .active).height_le hge
    | try_ i => exact { hf with }
  · intro which r _ hsame
    cases which with
    | active => exact hf.of_format hsame
    | try_ i => exact { hf with }
  · exact fun id v _ _ _ => write_framed id v s.dev hf
  · exact fun enable _ => sStream_framed binnedYOffset enable s.dev hf
  · exact fun _ => { hf with }
  · exact fun _ => { hf with }

theorem run_framed {s : System} (hs : Ready s) (hf : Framed s.dev)
    {fmt : MbusFramefmt} {calls : List Call}
    (hkept : Throughout (step binnedYOffset)
      (fun t => t.dev.mode.format = fmt) s calls) :
    Ready (run (step binnedYOffset) s calls) ∧
      Framed (run (step binnedYOffset) s calls).dev := by
  apply hkept.invariant (I := fun t => Ready t ∧ Framed t.dev)
  · rintro t c ⟨ht, hframed⟩ hfmt hfmt'
    exact ⟨step_ready binnedYOffset ht c,
      step_framed binnedYOffset ht hframed c (hfmt'.trans hfmt.symm)⟩
  · exact ⟨hs, hf⟩

end Parameters

end Ov5693
end SurfaceCameras
