import SurfaceCameras.StreamReferences
import SurfaceCameras.Ov7251.CachedControls

/-!
# The flips of an OV7251 that streams

Every start of a stream stores a mode table, which has values of its own for
the registers of the flips, and then sets up the controls, which stores what
the driver's copies say.  So from a start that succeeds on, each register holds
its copy: the bit of the control as it was last set, and otherwise what was
read at probe.  Power cycles and failing writes come and go without an effect
on the copies.
-/

namespace SurfaceCameras
namespace Ov7251

open Kernel Device Prog Runs

/-! ## Coherence -/

/-- The sensor is in use, its register holds the copy, and the bit in it is the
value `a`. -/
structure CachedCtrl.Shows (k : CachedCtrl) (a : ℤ) (w : CachedView) : Prop where
  inUse : w.pm.InUse
  register : w.register = w.copy
  bit : w.copy &&& k.bit = if a = 0 then 0 else k.bit

/-- Beside its bit, the copy holds `v`; the control has been set to `a`, and
where the sensor streams, it shows that. -/
structure CachedCtrl.Coheres (k : CachedCtrl) (v : BitVec 8) (streaming : Bool)
    (a : ℤ) (w : CachedView) : Prop where
  rest : w.copy &&& ~~~k.bit = v &&& ~~~k.bit
  applied : w.ctrl.cur = a
  shows : streaming = true → k.Shows a w

namespace CachedCtrl

variable {k : CachedCtrl} {v : BitVec 8} {on : Bool} {a : ℤ} {w w' : CachedView}

theorem Coheres.stored (h : k.Coheres v on a w) (hcopy : w'.copy = w.copy)
    (hctrl : w'.ctrl = w.ctrl) : k.Coheres v false a w' where
  rest := by rw [hcopy, h.rest]
  applied := by rw [hctrl, h.applied]
  shows hon := by cases hon

theorem Coheres.off (h : k.Coheres v on a w) : k.Coheres v false a w :=
  h.stored rfl rfl

theorem Coheres.withCtrl (h : k.Coheres v on a w) {c : Ctrl}
    (hc : c.cur = w.ctrl.cur) : k.Coheres v on a { w with ctrl := c } where
  rest := h.rest
  applied := hc.trans h.applied
  shows hon := { h.shows hon with }

theorem written_rest (x : ℤ) (w : CachedView) :
    (k.written x w).copy &&& ~~~k.bit = w.copy &&& ~~~k.bit :=
  MaskedWrites.flagged_and_not k.bit (x ≠ 0) w.copy

theorem written_shows (x : ℤ) (huse : w.pm.InUse) :
    k.Shows x (k.written x w) where
  inUse := huse
  register := rfl
  bit := by
    have hbit := MaskedWrites.flagged_and k.bit (x ≠ 0) w.copy
    rwa [ite_not] at hbit

theorem brought_rest (w : CachedView) :
    (k.brought w).copy &&& ~~~k.bit = w.copy &&& ~~~k.bit := by
  rw [brought]
  split
  · exact written_rest _ w
  · rfl

theorem brought_ctrl (w : CachedView) : (k.brought w).ctrl = w.ctrl := by
  rw [brought]
  split
  · rfl
  · rfl

theorem brought_shows (huse : w.pm.InUse) :
    k.Shows w.ctrl.val (k.brought w) := by
  rw [brought, if_pos huse]
  exact written_shows w.ctrl.val huse

end CachedCtrl

section Parameters

variable (k : CachedCtrl) (par : Params) {v : BitVec 8} {on : Bool} {a : ℤ}

/-! ## Setting the control -/

theorem sCtrl_id : sCtrl par k.id = applyCtrl par k.id := by
  have hne : k.id ≠ .vblank := by cases k <;> decide
  rw [sCtrl, Prog.when_neg hne]
  rfl

/-- Setting the control to a value shows it, if the sensor streams; a write
that fails leaves the value that was shown. -/
theorem writeControl_coheres (x : ℤ) :
    Triple (fun d => k.Coheres v on a (k.view d)) (writeControl par k.id x)
      (fun _ d => k.Coheres v on (k.view d).ctrl.cur (k.view d))
      (fun _ d => k.Coheres v on a (k.view d)) := by
  refine v4l2SCtrl_triple (fun w => ?_) fun _ hd => hd
  apply v4l2CtrlSCtrl_triple (S := fun d => k.Coheres v on a (k.view d))
    (T := fun d => (k.view d).copy &&& ~~~k.bit = v &&& ~~~k.bit ∧
      (on = true → k.Shows (k.view d).ctrl.val (k.view d)))
  · intro d hd
    rw [k.view_ctrl, k.view_ctrl]
    exact hd.withCtrl rfl
  · intro d hd _
    rw [hd.applied]
    exact hd
  · rw [sCtrl_id]
    intro d hd
    have hrun := applyCtrl_view k (w := k.view d) par d rfl
    revert hrun
    rcases applyCtrl par k.id d with ⟨_ | _, d'⟩
    · intro hview
      have hview : k.view d' = k.view d := hview
      have hkept : k.Coheres v on a (k.view d') := hview ▸ hd
      exact hkept
    · intro hview
      have hview : k.view d' = k.brought (k.view d) := hview
      refine ⟨?_, fun hon => ?_⟩
      · rw [hview, CachedCtrl.brought_rest, hd.rest]
      · rw [hview, CachedCtrl.brought_ctrl]
        exact CachedCtrl.brought_shows (hd.shows hon).inUse
  · rintro d ⟨hrest, hshows⟩
    rw [k.view_ctrl]
    exact ⟨hrest, rfl, fun hon => { hshows hon with }⟩

/-! ## Starting the stream -/

theorem writableCtrls_split :
    ∃ xs ys, writableCtrls = xs ++ k.id :: ys ∧ (∀ j ∈ xs, j ≠ k.id) ∧
      ∀ j ∈ ys, j ≠ k.id := by
  cases k with
  | hflip => exact ⟨[], writableCtrls.drop 1, rfl, by decide, by decide⟩
  | vflip =>
      exact ⟨writableCtrls.take 1, writableCtrls.drop 2, rfl, by decide,
        by decide⟩
  | testPattern =>
      exact ⟨writableCtrls.take 4, writableCtrls.drop 5, rfl, by decide,
        by decide⟩

theorem setupOther_view {j : CtrlId} (hj : j ≠ k.id) {P : CachedView → Prop} :
    Triple (fun d => P (k.view d))
      (Prog.modify ((ctrlField j).update Ctrl.curToNew) >>= fun _ => sCtrl par j)
      (fun _ d => P (k.view d)) (fun _ d => P (k.view d)) := by
  apply view_of_stays k
  exact (Keeps.modify fun d => k.view_other d hj _).bind
    fun _ => sCtrl_other k par hj

/-- Setting this control up shows its value. -/
theorem setupOwn_coheres :
    Triple (fun d => k.Coheres v false a (k.view d) ∧ (k.view d).pm.InUse)
      (Prog.modify ((ctrlField k.id).update Ctrl.curToNew) >>= fun _ =>
        sCtrl par k.id)
      (fun _ d => k.Coheres v true a (k.view d))
      (fun _ d => k.Coheres v false a (k.view d)) := by
  rw [sCtrl_id]
  rintro d ⟨hd, huse⟩
  have hnew := k.view_ctrl d Ctrl.curToNew
  have hset : k.Coheres v false a
      { k.view d with ctrl := (k.view d).ctrl.curToNew } := hd.withCtrl rfl
  have hrun := applyCtrl_view k par _ hnew
  rw [Prog.bind_ok (Prog.modify_apply _ d)]
  revert hrun
  rcases applyCtrl par k.id ((ctrlField k.id).update Ctrl.curToNew d) with
    ⟨_ | _, d'⟩
  · intro hview
    have hkept : k.Coheres v false a (k.view d') := by
      rw [hview]
      exact hset
    exact hkept
  · intro hview
    refine ⟨?_, ?_, fun _ => ?_⟩
    · rw [hview, CachedCtrl.brought_rest, hset.rest]
    · rw [hview, CachedCtrl.brought_ctrl, hset.applied]
    · have hshows := CachedCtrl.brought_shows (k := k)
        (w := { k.view d with ctrl := (k.view d).ctrl.curToNew }) huse
      rw [hview, ← hd.applied]
      exact hshows

theorem handlerSetup_coheres :
    Triple (fun d => k.Coheres v false a (k.view d) ∧ (k.view d).pm.InUse)
      (handlerSetup par) (fun _ d => k.Coheres v true a (k.view d))
      (fun _ d => k.Coheres v false a (k.view d)) := by
  obtain ⟨xs, ys, hsplit, hxs, hys⟩ := writableCtrls_split k
  rw [handlerSetup, hsplit, List.map_append, List.map_cons]
  apply Triple.forEach_at (R := fun _ d => k.Coheres v true a (k.view d))
  · intro x hx
    obtain ⟨j, hj, rfl⟩ := List.mem_map.mp hx
    exact (setupOther_view k par (hxs j hj) (P := fun w =>
      k.Coheres v false a w ∧ w.pm.InUse)).consequence (fun _ h => h)
        (fun _ _ h => h) fun _ _ h => h.1
  · exact setupOwn_coheres k par
  · intro y hy
    obtain ⟨j, hj, rfl⟩ := List.mem_map.mp hy
    exact (setupOther_view k par (hys j hj)).consequence (fun _ h => h)
      (fun _ _ h => h) fun _ _ h => h.off

/-- The copy and the control. -/
def CachedCtrl.kept (d : Device) : BitVec 8 × Ctrl :=
  ((k.view d).copy, (k.view d).ctrl)

theorem kept_admitsBus :
    AdmitsBus busField (Frame.fixing k.kept) fun _ => True where
  outcomes _ _ := by cases k <;> rfl
  store _ _ _ _ := by cases k <;> rfl

theorem kept_power (d : Device) (f : Power → Power) :
    k.kept (powerField.update f d) = k.kept d := by
  cases k <;> rfl

theorem kept_pm (d : Device) (f : RuntimePm → RuntimePm) :
    k.kept (pmField.update f d) = k.kept d := by
  cases k <;> rfl

theorem kept_lost (d : Device) (regs : ℕ → BitVec 8) :
    k.kept (busField.update (fun b => { b with regs := regs }) d) =
      k.kept d := by
  cases k <;> rfl

/-- What leaves copy and control alone may do to the registers what it
likes. -/
theorem coheres_of_kept {α : Type} {p : Prog Device Fault α}
    (hp : Stays (Frame.fixing k.kept) p) :
    Triple (fun d => k.Coheres v on a (k.view d)) p
      (fun _ d => k.Coheres v false a (k.view d))
      (fun _ d => k.Coheres v false a (k.view d)) := by
  intro d hd
  have hkept := hp.fixed d
  revert hkept
  rcases p d with ⟨_ | _, d'⟩
  · intro hkept
    obtain ⟨hcopy, hctrl⟩ := Prod.mk.inj hkept
    exact hd.stored hcopy hctrl
  · intro hkept
    obtain ⟨hcopy, hctrl⟩ := Prod.mk.inj hkept
    exact hd.stored hcopy hctrl

theorem ready_of_kept {α : Type} {p : Prog Device Fault α}
    (hp : Stays (Frame.fixing k.kept) p)
    (hpm : Stays (Frame.fixing Device.pm) p) :
    Triple (fun d => k.Coheres v false a (k.view d) ∧ d.pm.InUse) p
      (fun _ d => k.Coheres v false a (k.view d) ∧ d.pm.InUse)
      (fun _ d => k.Coheres v false a (k.view d)) := by
  have huse := hpm.triple (P := fun d => d.pm.InUse) ?_
  · exact ((coheres_of_kept k hp).and huse).consequence (fun _ h => h)
      (fun _ _ h => h) fun _ _ h => h.1
  · intro d d' hsame hd
    have hsame : d'.pm = d.pm := hsame
    rwa [hsame]

theorem resume_coheres :
    Triple (fun d => k.Coheres v on a (k.view d))
      (pmRuntimeResumeAndGet pmField setPowerOn)
      (fun _ d => k.Coheres v false a (k.view d) ∧ d.pm.InUse)
      (fun _ d => k.Coheres v false a (k.view d)) := by
  have hbus := kept_admitsBus k
  have hkept : Stays (Frame.fixing k.kept)
      (pmRuntimeResumeAndGet pmField setPowerOn) :=
    resumeAndGet_stays hbus (kept_power k) (kept_pm k)
  have hresume : Stays (Frame.fixing pmField.get) setPowerOn :=
    setPowerOn_stays pm_admits.toAdmitsBus (fun _ _ => rfl) fun _ _ => trivial
  intro d hd
  have husage := pmRuntimeResumeAndGet_usage hresume d.pm.usage
  apply ((coheres_of_kept k hkept).and husage).consequence (fun _ h => h) ?_
    (fun _ _ h => h.1) d ⟨hd, rfl⟩
  rintro _ d' ⟨hd', hactive, hcount⟩
  have hcount : d'.pm.usage = d.pm.usage + 1 := hcount
  exact ⟨hd', hactive, hcount ▸ Nat.succ_pos _⟩

/-- A start that succeeds leaves the register coherent. -/
theorem streamOn_coheres (hasLed : Bool) :
    Triple (fun d => k.Coheres v on a (k.view d)) (sStream par hasLed true)
      (fun _ d => k.Coheres v true a (k.view d))
      (fun _ d => k.Coheres v false a (k.view d)) := by
  have hbus := kept_admitsBus k
  have hview := view_admitsBus k
  have haddr : ∀ x ∈ [0x0100, 0x3005, 0x3b81], x ∉ ctrlAddrs k.id := by
    cases k <;> decide
  refine Triple.bind (resume_coheres k) fun _ => ?_
  apply Triple.tryCatch (J := fun _ d => k.Coheres v false a (k.view d))
  · refine Triple.bind (ready_of_kept k
      (pllConfigure_stays hbus par fun _ _ => trivial)
      (pllConfigure_stays pm_admits.toAdmitsBus par fun _ _ => trivial))
      fun _ => ?_
    refine Triple.bind (Q := fun _ d => k.Coheres v false a (k.view d) ∧
      d.pm.InUse) (Triple.gets fun _ h => h) fun mode => ?_
    refine Triple.bind (ready_of_kept k
      (setRegisterArray_stays hbus fun _ _ => trivial)
      (setRegisterArray_stays pm_admits.toAdmitsBus fun _ _ => trivial))
      fun _ => ?_
    refine Triple.bind (handlerSetup_coheres k par) fun _ => ?_
    have hlast : Stays (Frame.fixing k.view)
        (writeReg 0x0100 0x1 >>= fun _ => irLedSet hasLed true) :=
      (writeReg_stays hview (haddr _ (by decide)) _).bind fun _ =>
        irLedSet_stays hview (haddr _ (by decide)) (haddr _ (by decide)) _ _
    exact (view_of_stays k hlast).consequence (fun _ h => h) (fun _ _ h => h)
      fun _ _ h => h.off
  · intro e
    apply Triple.bind (Q := fun _ d => k.Coheres v false a (k.view d))
    · exact coheres_of_kept k (Keeps.modify fun d => kept_pm k d _)
    · exact fun _ => Triple.raise fun _ h => h

theorem autosuspend_inUse {d : Device} (h : d.pm.InUse) (lost : ℕ → BitVec 8) :
    autosuspend lost d = (.ok (), pmField.update RuntimePm.expire d) := by
  have hheld : ¬ (d.pm.active = true ∧ d.pm.usage = 0) := fun hidle =>
    absurd hidle.2 (Nat.pos_iff_ne_zero.mp h.2)
  rw [autosuspend, Prog.bind_ok (Prog.gets_apply _ d)]
  simp only [if_neg hheld]
  rfl

theorem autosuspend_coheres {d : Device} (h : k.Coheres v on a (k.view d))
    (lost : ℕ → BitVec 8) :
    k.Coheres v on a (k.view (autosuspend lost d).2) := by
  cases on with
  | true =>
      have huse : d.pm.InUse := (h.shows rfl).inUse
      have hview : k.view (pmField.update RuntimePm.expire d) =
          { k.view d with pm := d.pm.expire } := by
        cases k <;> rfl
      rw [autosuspend_inUse huse, hview]
      exact ⟨h.rest, h.applied, fun hon => { h.shows hon with }⟩
  | false =>
      have hlost : Stays (Frame.fixing k.kept) (autosuspend lost) :=
        autosuspend_stays (kept_pm k) (kept_power k) (kept_lost k) lost
      exact (coheres_of_kept k hlost).final h

/-! ## Runs -/

/-- A device, whether the V4L2 core holds it to be streaming, and the value
each of the controls was last set to with success. -/
structure Watched where
  dev : Device
  streaming : Bool
  applied : CachedCtrl → ℤ

variable (nearest : ℕ → ℕ → Fin 3)

/-- What a control was last set to, after a call. -/
def Watched.appliedAfter (s : Watched) : List Bool × SysCall → CachedCtrl → ℤ
  | (outcomes, .call (.write i x)), k =>
      if i = k.id ∧ (writeControl par i x (s.dev.facing outcomes)).1.isOk then
        ((ctrlField i).get
          (writeControl par i x (s.dev.facing outcomes)).2).cur
      else s.applied k
  | _, k => s.applied k

/-- A call, and what there is to note of it. -/
def watch (s : Watched) (x : List Bool × SysCall) : Watched where
  dev := sysStep par nearest s.dev x
  streaming := (streamDriver par nearest).streaming (s.dev, s.streaming) x
  applied := s.appliedAfter par x

/-- What the driver reads into its copy at probe. -/
def CachedCtrl.atProbe (board : Board) : BitVec 8 :=
  match k with
  | .hflip => board.timingFormat2
  | .vflip => board.timingFormat1
  | .testPattern => board.preIsp00

/-- The control is coherent in a run from a probe of this board. -/
def CachedCtrl.Coherent (board : Board) (s : Watched) : Prop :=
  k.Coheres (k.atProbe board) s.streaming (s.applied k) (k.view s.dev)

variable {board : Board} {s : Watched}

theorem CachedCtrl.Coherent.facing (h : k.Coherent board s)
    (outcomes : List Bool) :
    k.Coheres (k.atProbe board) s.streaming (s.applied k)
      (k.view (s.dev.facing outcomes)) := by
  have hview : k.view (s.dev.facing outcomes) = k.view s.dev :=
    k.view_outcomes s.dev outcomes
  rw [hview]
  exact h

/-- A control write, of this control or of another one. -/
theorem watchWrite_coherent (h : k.Coherent board s) (os : List Bool)
    (i : CtrlId) (x : ℤ) :
    k.Coherent board (watch par nearest s (os, .call (.write i x))) := by
  have hfacing := h.facing k os
  by_cases hi : i = k.id
  · subst hi
    have hrun := writeControl_coheres k par x _ hfacing
    change k.Coheres (k.atProbe board) s.streaming
      (if k.id = k.id ∧ (writeControl par k.id x (s.dev.facing os)).1.isOk then
        ((ctrlField k.id).get (writeControl par k.id x (s.dev.facing os)).2).cur
      else s.applied k) (k.view (writeControl par k.id x (s.dev.facing os)).2)
    revert hrun
    rcases writeControl par k.id x (s.dev.facing os) with ⟨_ | _, d'⟩
    · intro hkept
      rw [if_neg fun hok => by cases hok.2]
      exact hkept
    · intro hset
      rw [if_pos ⟨rfl, rfl⟩]
      exact hset
  · have happlied : (watch par nearest s (os, .call (.write i x))).applied k =
        s.applied k := if_neg fun hok => hi hok.1
    have hkept := (view_of_stays k (writeControl_other k par hi x)).final hfacing
    rw [CachedCtrl.Coherent, happlied]
    exact hkept

theorem watchStart_coherent (h : k.Coherent board s) (os : List Bool)
    (hasLed : Bool) :
    k.Coherent board (watch par nearest s (os, .stream hasLed true)) := by
  have hrun := streamOn_coheres k par hasLed _ (h.facing k os)
  change k.Coheres (k.atProbe board)
    (sStream par hasLed true (s.dev.facing os)).1.isOk (s.applied k)
    (k.view (sStream par hasLed true (s.dev.facing os)).2)
  revert hrun
  rcases sStream par hasLed true (s.dev.facing os) with ⟨_ | _, d'⟩
  · exact fun hstored => hstored
  · exact fun hshown => hshown

/-- Every call keeps the control coherent, whatever it returns. -/
theorem watch_coherent (h : k.Coherent board s) (x : List Bool × SysCall) :
    k.Coherent board (watch par nearest s x) := by
  obtain ⟨os, c⟩ := x
  have hfacing := h.facing k os
  match c with
  | .call (.setFormat w n) =>
      exact (view_of_stays k (setFormat_other k par nearest w n)).final hfacing
  | .call (.setFrameInterval t) =>
      exact (view_of_stays k (setFrameInterval_other k par t)).final hfacing
  | .call (.write i x) => exact watchWrite_coherent k par nearest h os i x
  | .stream hasLed true => exact watchStart_coherent k par nearest h os hasLed
  | .stream hasLed false =>
      have hstop := streamOff_stays (kept_admitsBus k) (kept_pm k) par hasLed
      exact (coheres_of_kept k hstop).final hfacing
  | .autosuspend lost => exact autosuspend_coheres k hfacing lost

/-- A probe has set the controls to their defaults. -/
def probed (board : Board) : Watched where
  dev := probe par nearest board
  streaming := false
  applied := fun _ => 0

theorem probed_coherent (board : Board) :
    k.Coherent board (probed par nearest board) := by
  have hinit : k.Coheres (k.atProbe board) false 0
      (k.view (initCtrls par board)) := by
    cases k <;> exact ⟨rfl, rfl, fun hon => by cases hon⟩
  have hformat : Stays (Frame.fixing k.view) (initState par nearest) := by
    apply Keeps.tryCatch (S := fun _ => True)
    · exact (setFormat_other k par nearest 640 480).bind fun _ => Keeps.pure ()
    · exact fun _ _ => Keeps.pure ()
  exact (view_of_stays k hformat).final hinit

/-- While the sensor streams, the registers of the flips hold the driver's
copies: the flip bits as they were last set with success, and otherwise what
was read at probe. -/
structure FlipsCoherent (board : Board) (s : Watched) : Prop where
  format1 : s.dev.bus.regs 0x3820 = s.dev.timingFormat1
  format2 : s.dev.bus.regs 0x3821 = s.dev.timingFormat2
  vflip : s.dev.bus.regs 0x3820 &&& 0x04 =
    if s.applied .vflip = 0 then 0 else 0x04
  hflip : s.dev.bus.regs 0x3821 &&& 0x04 =
    if s.applied .hflip = 0 then 0 else 0x04
  rest1 : s.dev.bus.regs 0x3820 &&& ~~~0x04 = board.timingFormat1 &&& ~~~0x04
  rest2 : s.dev.bus.regs 0x3821 &&& ~~~0x04 = board.timingFormat2 &&& ~~~0x04

theorem flipsCoherent_of (hvflip : CachedCtrl.vflip.Coherent board s)
    (hhflip : CachedCtrl.hflip.Coherent board s) (hon : s.streaming = true) :
    FlipsCoherent board s := by
  obtain ⟨-, hreg1, hbit1⟩ := hvflip.shows hon
  obtain ⟨-, hreg2, hbit2⟩ := hhflip.shows hon
  have hreg1 : s.dev.bus.regs 0x3820 = s.dev.timingFormat1 := hreg1
  have hreg2 : s.dev.bus.regs 0x3821 = s.dev.timingFormat2 := hreg2
  refine ⟨hreg1, hreg2, ?_, ?_, ?_, ?_⟩
  · rw [hreg1]
    exact hbit1
  · rw [hreg2]
    exact hbit2
  · rw [hreg1]
    exact hvflip.rest
  · rw [hreg2]
    exact hhflip.rest

/-- In every run from probe, with any failing transfers and power cycles, the
flips are coherent while the sensor streams. -/
theorem flips_coherent (board : Board) (calls : List (List Bool × SysCall)) :
    Throughout (watch par nearest)
      (fun s => s.streaming = true → FlipsCoherent board s)
      (probed par nearest board) calls := by
  have hrun : Throughout (watch par nearest)
      (fun s => CachedCtrl.vflip.Coherent board s ∧
        CachedCtrl.hflip.Coherent board s) (probed par nearest board) calls := by
    apply throughout_invariant ?_ ?_
      (along_of_every (P := fun _ _ => True) (fun _ _ => trivial) _ _)
    · intro s x hs _
      exact ⟨watch_coherent .vflip par nearest hs.1 x,
        watch_coherent .hflip par nearest hs.2 x⟩
    · exact ⟨probed_coherent .vflip par nearest board,
        probed_coherent .hflip par nearest board⟩
  exact hrun.mono fun s hs hon => flipsCoherent_of hs.1 hs.2 hon

end Parameters

end Ov7251
end SurfaceCameras
