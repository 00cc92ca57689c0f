import SurfaceCameras.Kernel.Traps
import SurfaceCameras.Ov5693.ModeHistory

/-!
# The contexts of the OV5693 driver

Formats and crop rectangles are kept for the active state and for every open
file handle.  A set call stores into the context it names and into no other,
whatever becomes of its transfers, so the content of a context follows from the
set calls made on it.  `ov5693_get_selection` answers from the context it is
asked about; `ov5693_get_fmt` always answers from the active state.
-/

namespace SurfaceCameras
namespace Ov5693

open Kernel Device FixedWidth Prog Runs

/-! ## What a call stores -/

/-- The format and the crop rectangle of every context. -/
def pads (s : System) (which : Which) : PadState := (padState which).get s.dev

/-- Storing into one context leaves the others. -/
theorem pads_update (which : Which) (f : PadState → PadState) (s : System) :
    pads ((padState which).ofDev.update f s) =
      Function.update (pads s) which (f (pads s which)) := by
  funext other
  by_cases hsame : other = which
  · subst hsame
    rw [Function.update_self]
    exact (padState other).get_update f s.dev
  · rw [Function.update_of_ne hsame]
    match which, other with
    | .active, .active => exact absurd rfl hsame
    | .active, .try_ _ => rfl
    | .try_ _, .active => rfl
    | .try_ i, .try_ j =>
        have hij : j ≠ i := fun h => hsame (congrArg Which.try_ h)
        exact Function.update_of_ne hij _ _

section Frames

variable (which : Which)

/-- Changes that leave what is stored in a context. -/
def padFrame : Frame System := Frame.fixing fun s => pads s which

theorem padFrame_rel {s t : System} (hmode : t.dev.mode.format =
    s.dev.mode.format ∧ t.dev.mode.crop = s.dev.mode.crop)
    (htries : t.dev.tries = s.dev.tries) : (padFrame which).Rel s t := by
  obtain ⟨hformat, hcrop⟩ := hmode
  change (padState which).get t.dev = (padState which).get s.dev
  cases which with
  | active => exact congrArg₂ PadState.mk hformat hcrop
  | try_ i => exact congrFun htries i

theorem padFrame_admits : Admits (padFrame which) everywhere everywhere where
  outcomes _ _ := padFrame_rel which ⟨rfl, rfl⟩ rfl
  store _ _ _ _ := padFrame_rel which ⟨rfl, rfl⟩ rfl
  hold s s' _ h := by
    have hget := padFrame_rel which (s := pmField.ofDev.update RuntimePm.get s)
      (t := s) ⟨rfl, rfl⟩ rfl
    have hput := padFrame_rel which (s := s')
      (t := pmField.ofDev.update RuntimePm.put s') ⟨rfl, rfl⟩ rfl
    exact hput.trans (h.trans hget.symm)
  ctrl s i f _ := by
    cases i <;> exact padFrame_rel which ⟨rfl, rfl⟩ rfl

/-- What comes after storing a format does not change it any more. -/
theorem applyFormat_stays (hratio vratio width height : ℕ) :
    Stays (padFrame which) (applyFormat hratio vratio width height) := by
  have hF := padFrame_admits which
  have hset : ∀ i, Stays (padFrame which) (sCtrl i) := fun i =>
    sCtrl_stays hF trivial (fun _ _ => trivial) fun _ _ => trivial
  have hctrl := fun i f s => hF.ctrl s i f trivial
  have hmode : ∀ g : Mode → Mode,
      (∀ m, (g m).format = m.format ∧ (g m).crop = m.crop) →
        Stays (padFrame which) (Prog.modify (modeField.ofDev.update g)) :=
    fun g hg => Keeps.modify fun s => padFrame_rel which (hg s.dev.mode) rfl
  refine (hmode (Mode.setBinning hratio vratio) fun _ => ⟨rfl, rfl⟩).bind
    fun _ => ?_
  refine Keeps.bind ?_ fun vts => ?_
  · refine (divide_stays _ _).bind fun _ => ?_
    exact (divide_stays _ _).bind fun _ => Keeps.pure _
  refine (hmode (fun m => { m with vts := vts }) fun _ => ⟨rfl, rfl⟩).bind
    fun _ => ?_
  refine (ignoreErrno_stays (modifyRange_stays hF (i := .vblank)
    trivial (hset _) _ _ _ _)).bind fun _ => ?_
  refine (ignoreErrno_stays (v4l2CtrlSCtrl_stays (hctrl .vblank _)
    (hctrl .vblank _) (hset _) (hctrl .vblank _))).bind fun _ => ?_
  refine (ignoreErrno_stays (modifyRange_stays hF (i := .hblank)
    trivial (hset _) _ _ _ _)).bind fun _ => ?_
  exact limitExposure_stays hF trivial (fun _ _ => trivial) _

end Frames

/-- The set calls on one context. -/
inductive SetCall where
  | format (width height : BitVec 32)
  | crop (r : RectRequest)
  deriving DecidableEq, Repr

/-- What a set call makes of the context it is made on.  With an empty crop
rectangle a format call traps before it stores anything. -/
def padAfter (p : PadState) : SetCall → PadState
  | .format width height =>
      if p.crop.width = 0 ∨ p.crop.height = 0 then p
      else formattedPad width height p
  | .crop r => storeCrop (selectedRect r) p

theorem setFmt_pads (which : Which) (width height : BitVec 32) (s : System) :
    pads (setFmt which width height s).2 =
      Function.update (pads s) which
        (padAfter (pads s which) (.format width height)) := by
  by_cases hempty : (pads s which).crop.width = 0 ∨
      (pads s which).crop.height = 0
  · have hrun := setFmt_of_empty which width height hempty
    rw [hrun, padAfter, if_pos hempty, Function.update_eq_self]
  · have hw : 0 < (pads s which).crop.width := by omega
    have hh : 0 < (pads s which).crop.height := by omega
    have hrun := setFmt_of_pos which width height hw hh
    rw [padAfter, if_neg hempty, ← pads_update, hrun,
      Prog.bind_ok (Prog.modify_apply _ s), Prog.bind_gets_state]
    funext other
    have happly : ∀ hratio vratio w h, Stays (padFrame other)
        (Prog.when (which = .active) (applyFormat hratio vratio w h)) :=
      fun _ _ _ _ => Keeps.when (applyFormat_stays other _ _ _ _)
    exact (happly _ _ _ _).fixed _

/-- The set call that a call makes on a context. -/
def setOn (which : Which) : Call → Option SetCall
  | .setFmt which' width height =>
      if which' = which then some (.format width height) else none
  | .setSelection which' .crop r =>
      if which' = which then some (.crop r) else none
  | _ => none

theorem update_setOn {which which' : Which} (p : Which → PadState)
    (c : SetCall) :
    Function.update p which' (padAfter (p which') c) which =
      ((if which' = which then some c else none).map
        (padAfter (p which))).getD (p which) := by
  by_cases hsame : which' = which
  · subst hsame
    rw [Function.update_self, if_pos rfl]
    rfl
  · rw [Function.update_of_ne (Ne.symm hsame), if_neg hsame]
    rfl

section Parameters

variable (binnedYOffset : ℤ)

/-- A call changes the contexts by the set call it is, whatever becomes of its
transfers. -/
theorem sysStep_pads (which : Which) (s : System) (x : List Bool × Call) :
    pads (sysStep binnedYOffset s x) which =
      ((setOn which x.2).map (padAfter (pads s which))).getD
        (pads s which) := by
  obtain ⟨outcomes, c⟩ := x
  have hF := padFrame_admits which
  cases c with
  | setFmt which' w h =>
      have hstored := congrFun (setFmt_pads which' w h (s.facing outcomes)) which
      exact hstored.trans (update_setOn (pads s) (.format w h))
  | setSelection which' target r =>
      by_cases htarget : target = .crop
      · subst htarget
        have hstored := congrFun (pads_update which'
          (storeCrop (selectedRect r)) (s.facing outcomes)) which
        exact hstored.trans (update_setOn (pads s) (.crop r))
      · have hnone : setOn which (.setSelection which' target r) = none := by
          cases target <;> first | rfl | exact absurd rfl htarget
        rw [hnone, sysStep, step, setSelection_other which' htarget]
        rfl
  | write i v =>
      exact (writeControl_stays hF (i := i) trivial (fun _ _ => trivial) trivial
        (fun _ _ => trivial) v).fixed (s.facing outcomes)
  | sStream enable =>
      have hpower : ∀ s f, (padFrame which).Rel s (powerField.ofDev.update f s) :=
        fun _ _ => padFrame_rel which ⟨rfl, rfl⟩ rfl
      have hpm : ∀ s f, (padFrame which).Rel s (pmField.ofDev.update f s) :=
        fun _ _ => padFrame_rel which ⟨rfl, rfl⟩ rfl
      exact (sStream_stays hF hpower hpm binnedYOffset enable).fixed
        (s.facing outcomes)
  | autosuspend lost =>
      rw [sysStep, step, autosuspend_eq]
      dsimp only
      split
      · have hkeep : ∀ bus : Bus, (padFrame which).Rel (s.facing outcomes)
            ⟨suspended (s.facing outcomes).dev, bus⟩ :=
          fun _ => padFrame_rel which ⟨rfl, rfl⟩ rfl
        exact hkeep _
      · have hkeep : (padFrame which).Rel (s.facing outcomes)
            ⟨expired (s.facing outcomes).dev, (s.facing outcomes).bus⟩ :=
          padFrame_rel which ⟨rfl, rfl⟩ rfl
        exact hkeep

/-! ## Runs with calls that ask -/

/-- A call on the driver, with the outcomes of its transfers, or a call that
asks what is stored. -/
inductive Request where
  | call (x : List Bool × Call)
  | getFmt (which : Which)
  | getSelection (which : Which) (target : SelTarget)

/-- The system after a request. -/
def serve (s : System) : Request → System
  | .call x => sysStep binnedYOffset s x
  | .getFmt which => (Ov5693.getFmt which s).2
  | .getSelection which target => (Ov5693.getSelection which target s).2

/-- The set calls that a run makes on a context. -/
def setCalls (which : Which) (reqs : List Request) : List SetCall :=
  reqs.filterMap fun
    | .call x => setOn which x.2
    | _ => none

/-- What a context holds at first: the default of the driver, or what the core
allocates for a new file handle. -/
def initialPad : Which → PadState
  | .active => ⟨defaultFmt, defaultCrop⟩
  | .try_ _ => PadState.zero

/-- What the set calls on a context have stored in it. -/
def stored (which : Which) (reqs : List Request) : PadState :=
  run padAfter (initialPad which) (setCalls which reqs)

theorem getSelection_state (which : Which) (target : SelTarget) (s : System) :
    (getSelection which target s).2 = s := by
  cases target <;> rfl

theorem serve_pads (which : Which) (s : System) (req : Request) :
    pads (serve binnedYOffset s req) which =
      run padAfter (pads s which) (setCalls which [req]) := by
  cases req with
  | call x =>
      refine (sysStep_pads binnedYOffset which s x).trans ?_
      unfold setCalls
      cases hset : setOn which x.2 with
      | none => simp [hset]
      | some c => simp [hset]
  | getFmt which' => rfl
  | getSelection which' target =>
      exact congrArg (fun t => pads t which) (getSelection_state which' target s)

theorem run_pads (which : Which) (s : System) (reqs : List Request) :
    pads (run (serve binnedYOffset) s reqs) which =
      run padAfter (pads s which) (setCalls which reqs) := by
  induction reqs generalizing s with
  | nil => rfl
  | cons req reqs ih =>
      have hsplit : setCalls which (req :: reqs) =
          setCalls which [req] ++ setCalls which reqs := by
        unfold setCalls
        rw [← List.filterMap_append, List.singleton_append]
      rw [run_cons, ih, serve_pads binnedYOffset which s req, hsplit]
      exact (List.foldl_append ..).symm

theorem probe_pads (regs : ℕ → BitVec 8) (which : Which) :
    pads (probe regs) which = initialPad which := by
  rw [probe_eq]
  cases which <;> rfl

/-! ## Whether the contexts are separate -/

/-- Two runs answer alike about a context, and the format is the one that the
first of them stored there, if it did. -/
structure Separate (regs₁ regs₂ : ℕ → BitVec 8) (which : Which)
    (reqs₁ reqs₂ : List Request) : Prop where
  selection : ∀ target,
    (getSelection which target
        (run (serve binnedYOffset) (probe regs₁) reqs₁)).1 =
      (getSelection which target
        (run (serve binnedYOffset) (probe regs₂) reqs₂)).1
  format :
    (getFmt which (run (serve binnedYOffset) (probe regs₁) reqs₁)).1 =
      (getFmt which (run (serve binnedYOffset) (probe regs₂) reqs₂)).1
  stored : setCalls which reqs₁ ≠ [] →
    (getFmt which (run (serve binnedYOffset) (probe regs₁) reqs₁)).1 =
      .ok (stored which reqs₁).format

theorem run_stored (regs : ℕ → BitVec 8) (which : Which)
    (reqs : List Request) :
    pads (run (serve binnedYOffset) (probe regs) reqs) which =
      stored which reqs := by
  rw [run_pads, probe_pads]
  rfl

theorem getSelection_congr {which : Which} {s t : System}
    (h : pads s which = pads t which) (target : SelTarget) :
    (getSelection which target s).1 = (getSelection which target t).1 := by
  cases target with
  | crop => exact congrArg (fun p => Except.ok p.crop) h
  | cropBounds | cropDefault | nativeSize | other => rfl

theorem getFmt_run (regs : ℕ → BitVec 8) (which : Which)
    (reqs : List Request) :
    (getFmt which (run (serve binnedYOffset) (probe regs) reqs)).1 =
      .ok (stored .active reqs).format := by
  rw [← run_stored binnedYOffset regs .active reqs]
  rfl

/-- Runs that make the same set calls on a context answer alike about it, and
as it was stored there, exactly if the context is the active one, or the active
formats agree with each other and with what was stored. -/
theorem separate_iff (regs₁ regs₂ : ℕ → BitVec 8) (which : Which)
    {reqs₁ reqs₂ : List Request}
    (hown : setCalls which reqs₁ = setCalls which reqs₂) :
    Separate binnedYOffset regs₁ regs₂ which reqs₁ reqs₂ ↔
      which = .active ∨
        (stored .active reqs₁).format = (stored .active reqs₂).format ∧
          (setCalls which reqs₁ ≠ [] →
            (stored which reqs₁).format = (stored .active reqs₁).format) := by
  have hpads : pads (run (serve binnedYOffset) (probe regs₁) reqs₁) which =
      pads (run (serve binnedYOffset) (probe regs₂) reqs₂) which := by
    rw [run_stored, run_stored]
    exact congrArg (run padAfter (initialPad which)) hown
  have hfmt₁ := getFmt_run binnedYOffset regs₁ which reqs₁
  have hfmt₂ := getFmt_run binnedYOffset regs₂ which reqs₂
  constructor
  · intro h
    have hsame := Except.ok.inj (hfmt₁.symm.trans (h.format.trans hfmt₂))
    refine Or.inr ⟨hsame, fun hset => ?_⟩
    exact Except.ok.inj ((h.stored hset).symm.trans hfmt₁)
  · rintro (rfl | ⟨hsame, hset⟩)
    · have hformat := congrArg PadState.format hpads
      exact
        { selection := getSelection_congr hpads
          format := congrArg Except.ok hformat
          stored := fun _ => hfmt₁ }
    · exact
        { selection := getSelection_congr hpads
          format := by rw [hfmt₁, hfmt₂, hsame]
          stored := fun h => by rw [hfmt₁, hset h] }

/-- File handles do not matter to the active state. -/
theorem separate_active :
    Separate 2 (fun _ => 0) (fun _ => 0) .active []
      [.call ([], .setSelection (.try_ 0) .crop ⟨0, 0, 640, 480⟩),
        .getFmt (.try_ 0)] := by
  have hown : setCalls .active [] = setCalls .active
      [.call ([], .setSelection (.try_ 0) .crop ⟨0, 0, 640, 480⟩),
        .getFmt (.try_ 0)] := rfl
  exact (separate_iff 2 (fun _ => 0) (fun _ => 0) .active hown).mpr (Or.inl rfl)

end Parameters

/-- A file handle that has selected a crop rectangle is told the active
format. -/
theorem separate_fails :
    ¬ ∀ (binnedYOffset : ℤ) (regs₁ regs₂ : ℕ → BitVec 8) (which : Which)
      (reqs₁ reqs₂ : List Request),
      setCalls which reqs₁ = setCalls which reqs₂ →
        Separate binnedYOffset regs₁ regs₂ which reqs₁ reqs₂ := by
  intro h
  let reqs : List Request :=
    [.call ([], .setSelection (.try_ 0) .crop ⟨0, 0, 640, 480⟩)]
  have hset : setCalls (.try_ 0) reqs ≠ [] := by decide
  have hstored :=
    (h 2 (fun _ => 0) (fun _ => 0) (.try_ 0) reqs reqs rfl).stored hset
  have hsame : (stored .active reqs).format = (stored (.try_ 0) reqs).format :=
    Except.ok.inj ((getFmt_run 2 (fun _ => 0) (.try_ 0) reqs).symm.trans hstored)
  have hdiffer : (stored .active reqs).format ≠
      (stored (.try_ 0) reqs).format := by
    decide
  exact hdiffer hsame

end Ov5693
end SurfaceCameras
