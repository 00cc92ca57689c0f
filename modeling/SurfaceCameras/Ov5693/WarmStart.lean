import SurfaceCameras.Ov5693.RegisterImage

/-!
# Starting the OV5693 from a warm sensor

The driver programs the readout mode on a runtime resume and nowhere else,
while a format or a crop may change between two resumes.  A start of streaming
leaves the registers of a cold start if the sensor was suspended, or if it has
been initialised since probe for the readout the current mode asks for.
-/

namespace SurfaceCameras
namespace Ov5693

open Kernel Device MaskedWrites Runs

section Parameters

variable (binnedYOffset : ℤ)

/-! ## Runs with the mode of the last resume -/

/-- A call that resumes a suspended device. -/
def resumes (s : System) : Call → Bool
  | .sStream true => !s.dev.pm.active
  | _ => false

/-- A run state: the system, and the mode it had at the last resume since
probe. -/
structure Tracked where
  system : System
  programmed : Option Mode

/-- A call, recording the mode it programs. -/
def trackedStep (t : Tracked) (c : Call) : Tracked where
  system := step binnedYOffset t.system c
  programmed :=
    if resumes t.system c then some t.system.dev.mode else t.programmed

/-- The run state after probe, which programs no mode. -/
def tracked (regs : ℕ → BitVec 8) : Tracked := ⟨probe regs, none⟩

/-- A start from here finds the sensor suspended, or initialised since probe
for the readout of the current mode. -/
def StartsCurrent (t : Tracked) : Prop :=
  t.system.dev.pm.active = false ∨
    ∃ m, t.programmed = some m ∧ SameReadout m t.system.dev.mode

/-- The same driver state over a suspended sensor, whose registers read `lost`
once it is powered again. -/
def coldSystem (lost : ℕ → BitVec 8) (s : System) : System :=
  ⟨suspended s.dev, { s.bus with regs := lost }⟩

/-- A start of streaming leaves in every register of a start what a start from
the suspended state leaves there. -/
def RefinesColdStart (s : System) : Prop :=
  ∀ (lost : ℕ → BitVec 8), ∀ a ∈ startRegs,
    (sStream binnedYOffset true s).2.bus.regs a =
      (sStream binnedYOffset true (coldSystem lost s)).2.bus.regs a

/-! ## A start of streaming, past the resume -/

/-- Taking a reference and resuming. -/
def getEffect : Effect Device :=
  resumeAndGetEffect pmField (resumeEffect binnedYOffset)

theorem getEffect_of_active {d : Device} (h : d.pm.active = true) :
    getEffect binnedYOffset d =
      ({ d with pm := d.pm.getToResume }, []) := by
  unfold getEffect resumeAndGetEffect Effect.seq
  dsimp only [Effect.silent_fst, Effect.silent_snd]
  rw [if_pos (by exact h)]
  rfl

theorem getEffect_of_suspended {d : Device} (h : d.pm.active = false) :
    getEffect binnedYOffset d =
      ({ d with
          pm := { d.pm.getToResume with active := true }
          power := Power.up d.power },
        initWrites binnedYOffset d.mode d.hflip.val d.vflip.val) := by
  unfold getEffect resumeAndGetEffect Effect.seq
  dsimp only [Effect.silent_fst, Effect.silent_snd]
  rw [if_neg (by simp [pmField, Field.update, RuntimePm.getToResume,
    RuntimePm.get, h])]
  simp [resumeEffect, Effect.seq, Effect.emit, Effect.silent, Field.update,
    pmField, powerField]

theorem sStream_regs {s : System} (hs : s.Clean) :
    (sStream binnedYOffset true s).2.bus.regs =
      applyAll (streamWrites true)
        (applyAll (handlerEffect (getEffect binnedYOffset s.dev).1).2
          (applyAll (getEffect binnedYOffset s.dev).2 s.bus.regs)) := by
  rw [sStream_performs binnedYOffset true s hs]
  simp only [sStreamEffect, Machine.after_regs, Effect.seq_snd,
    Effect.emit_snd, applyAll_append]
  rfl

/-- Two starts whose mode bits agree past the resume agree on every register of
a start. -/
theorem sStream_regs_eq {s s' : System} (hs : s.Clean) (hs' : s'.Clean)
    (hdev : SameDriver (getEffect binnedYOffset s.dev).1
      (getEffect binnedYOffset s'.dev).1)
    (hregs : AgreeOn modeBits
      (applyAll (getEffect binnedYOffset s.dev).2 s.bus.regs)
      (applyAll (getEffect binnedYOffset s'.dev).2 s'.bus.regs)) :
    ∀ a ∈ startRegs, (sStream binnedYOffset true s).2.bus.regs a =
      (sStream binnedYOffset true s').2.bus.regs a := by
  intro a ha
  obtain ⟨-, hws⟩ := handler_respects _ _ hdev
  have hcover := handlerSetup_covers writableCtrls hdev.inUse
  rw [sStream_regs binnedYOffset hs, sStream_regs binnedYOffset hs', ← hws]
  have hall := (hregs.applyAll
    (handlerEffect (getEffect binnedYOffset s.dev).1).2).applyAll
      (streamWrites true)
  have hbits : Within
      (fun a => bitsOf (writableCtrls.flatMap ctrlCells) a ||| modeBits a)
      (fun a => bitsOf (footprint (streamWrites true)) a |||
        (bitsOf (footprint
          (handlerEffect (getEffect binnedYOffset s.dev).1).2) a |||
            modeBits a)) :=
    ((hcover.left modeBits).or ((Within.refl modeBits).right _)).right _
  exact (hall.mono hbits).eq_of_allOnes (modeBits_or_ctrlBits a ha)

theorem sStream_agreeOn {s : System} (hs : s.Clean) :
    AgreeOn modeBits (sStream binnedYOffset true s).2.bus.regs
      (applyAll (getEffect binnedYOffset s.dev).2 s.bus.regs) := by
  rw [sStream_regs binnedYOffset hs]
  exact (agreeOn_applyAll_self (streamWrites_outside true) _).trans
    (agreeOn_applyAll_self (handler_spares _) _)

/-! ## The invariant of a run -/

/-- The registers of an active device hold the mode bits of the last resume. -/
structure Tracks (t : Tracked) : Prop where
  crops : CropsInArray t.system
  image : t.system.dev.pm.active = true → ∀ m, t.programmed = some m →
    AgreeOn modeBits t.system.bus.regs
      (applyAll (initWrites binnedYOffset m 0 0) fun _ => 0)

theorem setFmtEffect_pm (w h : BitVec 32) (which : Which) :
    Fixes Device.pm (setFmtEffect w h which) := by
  cases which with
  | active =>
      have hformat : ∀ hratio vratio width height,
          Fixes Device.pm (formatEffect hratio vratio width height) :=
        formatEffect_fixes (fun _ => rfl) (fun _ _ _ => rfl) (fun _ _ => rfl)
          (fun _ _ => rfl)
      have hpad : Fixes Device.pm
          (Effect.silent ((padState .active).update (formattedPad w h))) :=
        fun _ => rfl
      intro d
      exact hpad.seq (hformat _ _ _ _) d
  | try_ i => exact fun _ => rfl

theorem writeEffect_pm (id : CtrlId) (v : ℤ) :
    Fixes Device.pm (writeEffect id v) := by
  have hupdate : ∀ (g : Ctrl → Ctrl) (d : Device),
      ((ctrlField id).update g d).pm = d.pm := by
    intro g d
    cases id <;> rfl
  have hcb : Fixes Device.pm (sCtrlEffect id) :=
    (sCtrl_fixes id).map Device.pm
  exact Fixes.writeCtrl hupdate hcb (ctrlType id) v

theorem after_mode {s : System} {e : Effect Device} (hpm : Fixes Device.pm e)
    (hspare : Spares modeBits e) :
    ((s.after (e s.dev)).dev.pm.active = true → s.dev.pm.active = true) ∧
      AgreeOn modeBits (s.after (e s.dev)).bus.regs s.bus.regs := by
  refine ⟨fun h => ?_, hspare.agreeOn s⟩
  rw [← hpm s.dev]
  exact h

/-- A call that does not resume the device does not make it active either, and
while it stays active the mode bits stay. -/
theorem step_mode {s : System} (hs : CropsInArray s) {c : Call}
    (hc : resumes s c = false)
    (hactive : (step binnedYOffset s c).dev.pm.active = true) :
    s.dev.pm.active = true ∧
      AgreeOn modeBits (step binnedYOffset s c).bus.regs s.bus.regs := by
  cases c with
  | setFmt which w h =>
      rcases setFmt_cases which w h hs with ⟨-, hrun⟩ | ⟨-, fmt, hrun⟩
      · rw [step, hrun] at hactive ⊢
        exact ⟨hactive, AgreeOn.refl _ _⟩
      · rw [step, hrun] at hactive ⊢
        have hmode := after_mode (s := s) (setFmtEffect_pm w h which)
          (setFmtEffect_spares w h which)
        exact ⟨hmode.1 hactive, hmode.2⟩
  | setSelection which target r =>
      by_cases htarget : target = .crop
      · subst htarget
        rw [step, setSelection_crop] at hactive ⊢
        cases which <;> exact ⟨hactive, AgreeOn.refl _ _⟩
      · rw [step, setSelection_other which htarget] at hactive ⊢
        exact ⟨hactive, AgreeOn.refl _ _⟩
  | write id v =>
      by_cases hid : id = .hblank
      · subst hid
        exact ⟨hactive, AgreeOn.refl _ _⟩
      · rw [step, writeControl_after hid v hs.clean] at hactive ⊢
        have hmode := after_mode (s := s) (writeEffect_pm id v)
          (writeEffect_spares id v)
        exact ⟨hmode.1 hactive, hmode.2⟩
  | sStream enable =>
      cases enable with
      | true =>
          have hon : s.dev.pm.active = true := by
            simpa [resumes] using hc
          have hagree := sStream_agreeOn binnedYOffset hs.clean
          rw [getEffect_of_active binnedYOffset hon] at hagree
          exact ⟨hon, hagree⟩
      | false =>
          rw [step, sStream_performs binnedYOffset false s hs.clean]
            at hactive ⊢
          refine ⟨hactive, ?_⟩
          exact agreeOn_applyAll_self
            ((streamWrites_outside false).append fun _ hx =>
              absurd hx List.not_mem_nil) s.bus.regs
  | autosuspend lost =>
      rw [step, autosuspend_eq] at hactive ⊢
      dsimp only at hactive ⊢
      split at hactive
      · cases hactive
      · next hnot =>
          rw [if_neg hnot]
          exact ⟨hactive, AgreeOn.refl _ _⟩

theorem trackedStep_tracks {t : Tracked} (ht : Tracks binnedYOffset t)
    (c : Call) : Tracks binnedYOffset (trackedStep binnedYOffset t c) := by
  refine ⟨step_cropsInArray binnedYOffset ht.crops c, ?_⟩
  intro hactive m hm
  cases hc : resumes t.system c with
  | false =>
      obtain ⟨hold, hagree⟩ := step_mode binnedYOffset ht.crops hc hactive
      rw [trackedStep, hc] at hm
      exact hagree.trans (ht.image hold m hm)
  | true =>
      rw [trackedStep, hc] at hm
      cases hm
      match c, hc with
      | .sStream true, hc =>
          have hoff : t.system.dev.pm.active = false := by
            simpa [resumes] using hc
          have hagree := sStream_agreeOn binnedYOffset ht.crops.clean
          rw [getEffect_of_suspended binnedYOffset hoff] at hagree
          exact hagree.trans (initWrites_agreeOn binnedYOffset
            (SameReadout.refl _) _ _ _ _ _ _)

theorem tracked_tracks (regs : ℕ → BitVec 8) :
    Tracks binnedYOffset (tracked regs) :=
  ⟨probe_cropsInArray regs, fun _ _ h => by cases h⟩

/-! ## Warm starts -/

theorem sameDriver_getEffect (s : System) (lost : ℕ → BitVec 8) :
    SameDriver (getEffect binnedYOffset s.dev).1
      (getEffect binnedYOffset (coldSystem lost s).dev).1 := by
  have hcold : (coldSystem lost s).dev.pm.active = false := rfl
  rw [getEffect_of_suspended binnedYOffset hcold]
  cases hon : s.dev.pm.active with
  | true =>
      rw [getEffect_of_active binnedYOffset hon]
      exact ⟨rfl, ⟨hon, Nat.succ_pos _⟩, ⟨rfl, Nat.succ_pos _⟩⟩
  | false =>
      rw [getEffect_of_suspended binnedYOffset hon]
      exact ⟨rfl, ⟨rfl, Nat.succ_pos _⟩, ⟨rfl, Nat.succ_pos _⟩⟩

/-- In a state of a run that is `StartsCurrent`, a start of streaming refines a
cold start. -/
theorem refinesColdStart_of_tracks {t : Tracked}
    (ht : Tracks binnedYOffset t) (h : StartsCurrent t) :
    RefinesColdStart binnedYOffset t.system := by
  intro lost
  have hcold : (coldSystem lost t.system).dev.pm.active = false := rfl
  refine sStream_regs_eq binnedYOffset ht.crops.clean ht.crops.clean
    (sameDriver_getEffect binnedYOffset t.system lost) ?_
  rw [getEffect_of_suspended binnedYOffset hcold]
  cases hon : t.system.dev.pm.active with
  | false =>
      rw [getEffect_of_suspended binnedYOffset hon]
      exact initWrites_agreeOn binnedYOffset (SameReadout.refl _) _ _ _ _ _ _
  | true =>
      rw [getEffect_of_active binnedYOffset hon]
      rcases h with hoff | ⟨m, hm, hsame⟩
      · rw [hon] at hoff
        cases hoff
      · exact (ht.image hon m hm).trans
          (initWrites_agreeOn binnedYOffset hsame _ _ _ _ _ _)

theorem sStream_ok {s : System} (hs : s.Clean) :
    (sStream binnedYOffset true s).1 = .ok () := by
  rw [sStream_performs binnedYOffset true s hs]

/-- In every run from probe, each start of streaming that finds the sensor
suspended, or initialised for the readout of the current mode, succeeds and
refines a cold start. -/
theorem warmStart_refines (regs : ℕ → BitVec 8) (calls : List Call)
    (h : StartsCurrent (run (trackedStep binnedYOffset) (tracked regs) calls)) :
    (sStream binnedYOffset true
        (run (trackedStep binnedYOffset) (tracked regs) calls).system).1 =
          .ok () ∧
      RefinesColdStart binnedYOffset
        (run (trackedStep binnedYOffset) (tracked regs) calls).system := by
  have ht : Tracks binnedYOffset
      (run (trackedStep binnedYOffset) (tracked regs) calls) :=
    run_induction (I := Tracks binnedYOffset)
      (fun _ c ht => trackedStep_tracks binnedYOffset ht c)
      (tracked_tracks binnedYOffset regs) calls
  exact ⟨sStream_ok binnedYOffset ht.crops.clean,
    refinesColdStart_of_tracks binnedYOffset ht h⟩

end Parameters

theorem sStream_after_probe :
    (sStream 2 true (probe fun _ => 0)).2.bus.regs 0x3808 = 0 := by
  decide +kernel

theorem sStream_after_suspend :
    (sStream 2 true
      (coldSystem (fun _ => 0) (probe fun _ => 0))).2.bus.regs 0x3808 =
        0x0a := by
  decide +kernel

theorem warmStart_fails :
    ¬ ∀ (regs : ℕ → BitVec 8) (calls : List Call),
      RefinesColdStart 2
        (run (trackedStep 2) (tracked regs) calls).system := by
  intro h
  have hsize : 0x3808 ∈ startRegs := by decide
  have hprobe : RefinesColdStart 2 (probe fun _ => 0) := h (fun _ => 0) []
  have hwarm := hprobe (fun _ => 0) 0x3808 hsize
  rw [sStream_after_probe, sStream_after_suspend] at hwarm
  exact absurd hwarm (by decide)

/-- A second start with the sensor still on and the mode unchanged. -/
theorem warmStart_again :
    (sStream 2 true (run (trackedStep 2) (tracked fun _ => 0)
      [.autosuspend fun _ => 0xff, .sStream true, .sStream false]).system).1 =
        .ok () ∧
      RefinesColdStart 2 (run (trackedStep 2) (tracked fun _ => 0)
        [.autosuspend fun _ => 0xff, .sStream true, .sStream false]).system := by
  have hmode : (run (trackedStep 2) (tracked fun _ => 0)
      [.autosuspend fun _ => 0xff, .sStream true, .sStream false]).programmed =
        some (run (trackedStep 2) (tracked fun _ => 0)
          [.autosuspend fun _ => 0xff, .sStream true,
            .sStream false]).system.dev.mode := by
    decide +kernel
  exact warmStart_refines 2 _ _ (Or.inr ⟨_, hmode, SameReadout.refl _⟩)

end Ov5693
end SurfaceCameras
