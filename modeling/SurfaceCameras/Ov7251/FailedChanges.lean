import SurfaceCameras.Ov7251.Encoding

/-!
# Mode changes of the OV7251 that fail

Selecting a mode changes the exposure and the gain before the mode becomes the
current one, and while the sensor streams each of these changes writes
registers.  The driver does not take back what it has done when one of the
writes fails.  What is left behind is confined to the exposure control: the gain
is only changed by the last of these writes, and the vertical blanking has no
value that its new range would move.
-/

namespace SurfaceCameras
namespace Kernel

/-- Two states of a control with one range and one applied value.  The value
being set is left behind by a write that fails, and does not count. -/
structure Ctrl.Same (c c' : Ctrl) : Prop where
  minimum : c'.minimum = c.minimum
  maximum : c'.maximum = c.maximum
  step : c'.step = c.step
  defaultValue : c'.defaultValue = c.defaultValue
  cur : c'.cur = c.cur

theorem Ctrl.Same.refl (c : Ctrl) : c.Same c := ⟨rfl, rfl, rfl, rfl, rfl⟩

end Kernel

namespace Ov7251

open Kernel Device Prog Runs FixedWidth

/-- A call that selects a mode for the active state. -/
inductive ModeCall where
  | format (width height : ℕ)
  | frameInterval (interval : Fract)

/-- The current mode and the ranges and values of the gain and the vertical
blanking are the same. -/
structure ModeKept (d d' : Device) : Prop where
  currentMode : d'.currentMode = d.currentMode
  gain : d.gain.Same d'.gain
  vblank : d.vblank.Same d'.vblank

/-- So are those of the exposure. -/
structure Unchanged (d d' : Device) : Prop extends ModeKept d d' where
  exposure : d.exposure.Same d'.exposure

/-- The exposure control has the range of `mode`, and the value it had, that
value moved into the range, or the value the mode starts with. -/
structure ExposureStarted (mode : ModeInfo) (c c' : Ctrl) : Prop where
  minimum : c'.minimum = 1
  maximum : c'.maximum = mode.exposureMax
  step : c'.step = 1
  defaultValue : c'.defaultValue = mode.exposureDef
  cur : c'.cur = c.cur ∨ c'.cur = clamp c.cur 1 (mode.exposureMax : ℤ) ∨
    c'.cur = mode.exposureDef

/-- A change to `mode` that came to nothing but for the exposure. -/
structure HalfChanged (mode : ModeInfo) (d d' : Device) : Prop
    extends ModeKept d d' where
  exposure : ExposureStarted mode d.exposure d'.exposure

section Parameters

variable (par : Params) (nearest : ℕ → ℕ → Fin 3)

namespace ModeCall

/-- The call, without what it returns to user space. -/
def request : ModeCall → Prog Device Fault Unit
  | .format w h => setFormat par nearest .active w h >>= fun _ => pure ()
  | .frameInterval t => setFrameInterval par .active t >>= fun _ => pure ()

/-- The mode the call selects. -/
def Selects (d : Device) (n : Fin 3) : ModeCall → Prop
  | .format w h => n = nearest w h
  | .frameInterval t =>
      (findModeByIval par (modeInfoData par d.currentMode) t d).1 = .ok n

end ModeCall

/-- If the call fails, the mode and the three controls are what they were. -/
def FailsAtomically (c : ModeCall) (d : Device) : Prop :=
  ∀ e, (c.request par nearest d).1 = .error e →
    Unchanged d (c.request par nearest d).2

/-! ## Setting a control in a mode that is being selected -/

/-- The current mode and the controls. -/
def Device.settings (d : Device) : Fin 3 × (CtrlId → Ctrl) :=
  (d.currentMode, d.controls)

theorem applyCtrl_settings (i : CtrlId) :
    Stays (Frame.fixing Device.settings) (applyCtrl par i) := by
  have hbus : AdmitsBus busField (Frame.fixing Device.settings)
      fun _ => True :=
    ⟨fun d os => congrArg (Prod.mk d.currentMode)
        (controls_admitsBus.outcomes d os),
      fun d a bytes h => congrArg (Prod.mk d.currentMode)
        (controls_admitsBus.store d a bytes h)⟩
  have hpm : ∀ (d : Device) f, (pmField.update f d).settings = d.settings :=
    fun d f => congrArg (Prod.mk d.currentMode) (controls_pm d f)
  apply held_stays
  · intro d d' _ h
    have h : d'.settings = (pmField.update RuntimePm.get d).settings := h
    exact (hpm d' _).trans (h.trans (hpm d _))
  · intro ctrl
    apply writeCtrl_stays hbus
    · exact fun d _ => congrArg (Prod.mk d.currentMode)
        (funext fun j => by cases j <;> rfl)
    · exact fun d _ => congrArg (Prod.mk d.currentMode)
        (funext fun j => by cases j <;> rfl)
    · exact fun d _ => congrArg (Prod.mk d.currentMode)
        (funext fun j => by cases j <;> rfl)
    · exact fun _ _ => trivial

theorem sCtrl_settings {i : CtrlId} (hi : i ≠ .vblank) :
    Stays (Frame.fixing Device.settings) (sCtrl par i) := by
  unfold sCtrl
  rw [Prog.when_neg hi]
  exact (Keeps.pure ()).bind fun _ => applyCtrl_settings par i

theorem settings_eq {d d' : Device} (h : d'.settings = d.settings) :
    d'.currentMode = d.currentMode ∧ d'.exposure = d.exposure ∧
      d'.gain = d.gain ∧ d'.vblank = d.vblank :=
  ⟨congrArg Prod.fst h, congrFun (congrArg Prod.snd h) .exposure,
    congrFun (congrArg Prod.snd h) .analogueGain,
    congrFun (congrArg Prod.snd h) .vblank⟩

theorem Unchanged.of_settings {d d' : Device}
    (h : d'.settings = d.settings) : Unchanged d d' := by
  obtain ⟨hmode, hexposure, hgain, hvblank⟩ := settings_eq h
  refine ⟨⟨hmode, ?_, ?_⟩, ?_⟩
  · rw [hgain]
    exact Ctrl.Same.refl _
  · rw [hvblank]
    exact Ctrl.Same.refl _
  · rw [hexposure]
    exact Ctrl.Same.refl _

theorem HalfChanged.of_settings {mode : ModeInfo} {d₀ d d' : Device}
    (hd : HalfChanged mode d₀ d) (h : d'.settings = d.settings) :
    HalfChanged mode d₀ d' := by
  obtain ⟨hmode, hexposure, hgain, hvblank⟩ := settings_eq h
  exact ⟨⟨hmode.trans hd.currentMode, hgain ▸ hd.gain, hvblank ▸ hd.vblank⟩,
    hexposure ▸ hd.exposure⟩

theorem sCtrl_halfChanged {i : CtrlId} (hi : i ≠ .vblank) {mode : ModeInfo}
    {d₀ : Device} {P : Fin 3 × (CtrlId → Ctrl) → Prop} :
    Triple (fun d => HalfChanged mode d₀ d ∧ P d.settings) (sCtrl par i)
      (fun _ d => HalfChanged mode d₀ d ∧ P d.settings)
      (fun _ d => Unchanged d₀ d ∨ HalfChanged mode d₀ d) := by
  refine ((sCtrl_settings par hi).triple ?_).consequence (fun _ hd => hd)
    (fun _ _ hd => hd) fun _ _ hd => Or.inr hd.1.1
  rintro d d' h ⟨hd, hp⟩
  have h : d'.settings = d.settings := h
  refine ⟨hd.of_settings h, ?_⟩
  rw [h]
  exact hp

/-! ## The change of exposure and gain -/

section Reset

variable {mode : ModeInfo} {d₀ : Device}
  (hr : Ctrl.RangeOk 1 mode.exposureMax 1 mode.exposureDef)
include hr

/-- The new range moves the value into it. -/
theorem exposureRange_halfChanged :
    Triple (fun d => d.settings = d₀.settings)
      (v4l2CtrlModifyRange exposureField (sCtrl par .exposure) 1
        mode.exposureMax 1 mode.exposureDef)
      (fun _ => HalfChanged mode d₀)
      (fun _ d => Unchanged d₀ d ∨ HalfChanged mode d₀ d) := by
  let P : Fin 3 × (CtrlId → Ctrl) → Prop := fun x =>
    (x.2 .exposure).val = clamp d₀.exposure.cur 1 (mode.exposureMax : ℤ)
  have hcb : Triple (fun d => HalfChanged mode d₀ d ∧ P d.settings) _ _ _ :=
    sCtrl_halfChanged par (i := .exposure) (by decide)
  apply v4l2CtrlModifyRange_triple ?_ ?_ ?_ hcb ?_
  · intro _ d hd
    obtain ⟨hmode, hexposure, hgain, hvblank⟩ := settings_eq hd
    have hcur : d.exposure.cur = d₀.exposure.cur :=
      congrArg Ctrl.cur hexposure
    refine ⟨⟨⟨hmode, ?_, ?_⟩, rfl, rfl, rfl, rfl, Or.inl hcur⟩, ?_⟩
    · exact hgain.symm ▸ Ctrl.Same.refl d₀.gain
    · exact hvblank.symm ▸ Ctrl.Same.refl d₀.vblank
    · exact congrArg (clamp · 1 (mode.exposureMax : ℤ)) hcur
  · exact fun h => absurd hr h
  · exact fun d hd _ => hd.1
  · rintro d ⟨hd, hval⟩
    have hval : d.exposure.val =
        clamp d₀.exposure.cur 1 (mode.exposureMax : ℤ) := hval
    exact
      { hd with
        exposure := { hd.exposure with cur := Or.inr (Or.inl hval) } }

/-- Then the exposure is set to the value the mode starts with. -/
theorem exposureDef_halfChanged :
    Triple (HalfChanged mode d₀)
      (v4l2CtrlSCtrl exposureField (sCtrl par .exposure) mode.exposureDef)
      (fun _ => HalfChanged mode d₀)
      (fun _ d => Unchanged d₀ d ∨ HalfChanged mode d₀ d) := by
  let P : Fin 3 × (CtrlId → Ctrl) → Prop := fun x =>
    (x.2 .exposure).val = mode.exposureDef
  have hcb : Triple (fun d => HalfChanged mode d₀ d ∧ P d.settings) _ _ _ :=
    sCtrl_halfChanged par (i := .exposure) (by decide)
  apply v4l2CtrlSCtrl_triple ?_ ?_ hcb ?_
  · intro d hd
    refine ⟨{ hd with exposure := { hd.exposure with } }, ?_⟩
    change clamp (mode.exposureDef : ℤ) d.exposure.minimum d.exposure.maximum =
      mode.exposureDef
    rw [hd.exposure.minimum, hd.exposure.maximum]
    exact clamp_of_mem hr.2.2.1 hr.2.2.2
  · exact fun d hd _ => hd.1
  · rintro d ⟨hd, hval⟩
    have hval : d.exposure.val = mode.exposureDef := hval
    exact
      { hd with
        exposure := { hd.exposure with cur := Or.inr (Or.inr hval) } }

omit hr in
theorem gain_halfChanged :
    Triple (HalfChanged mode d₀)
      (v4l2CtrlSCtrl gainField (sCtrl par .analogueGain) 16)
      (fun _ d => d₀.vblank.Same d.vblank)
      (fun _ d => Unchanged d₀ d ∨ HalfChanged mode d₀ d) := by
  have hcb : Triple (fun d => HalfChanged mode d₀ d ∧ True) _ _ _ :=
    sCtrl_halfChanged par (i := .analogueGain) (P := fun _ => True) (by decide)
  apply v4l2CtrlSCtrl_triple ?_ ?_ hcb ?_
  · exact fun d hd => ⟨{ hd with gain := { hd.gain with } }, trivial⟩
  · exact fun d hd _ => hd.1.vblank
  · exact fun d hd => hd.1.vblank

end Reset

theorem resetExposure_halfChanged (mode : ModeInfo) (d₀ : Device) :
    Triple (fun d => d.settings = d₀.settings) (resetExposure par mode)
      (fun _ d => d₀.vblank.Same d.vblank)
      (fun _ d => Unchanged d₀ d ∨ HalfChanged mode d₀ d) := by
  by_cases hr : Ctrl.RangeOk 1 mode.exposureMax 1 mode.exposureDef
  · apply Triple.bind (exposureRange_halfChanged par hr)
    intro _
    apply Triple.bind (exposureDef_halfChanged par hr)
    exact fun _ => gain_halfChanged par
  · -- A range that is refused ends the call before it has changed anything.
    apply Triple.bind (Q := fun _ _ => False)
    · unfold v4l2CtrlModifyRange
      rw [if_neg hr]
      exact Triple.raise fun d hd => Or.inl (Unchanged.of_settings hd)
    · exact fun _ _ hd => hd.elim

/-! ## Calls -/

/-- The new range of the vertical blanking is never refused, and its value
never moved. -/
theorem setActiveMode_halfChanged (n : Fin 3) {d₀ : Device}
    (hd₀ : Bounded d₀) :
    Triple (fun d => d.settings = d₀.settings) (setActiveMode par n)
      (fun _ _ => True)
      (fun _ d => Unchanged d₀ d ∨ HalfChanged (modeInfoData par n) d₀ d) := by
  apply Triple.bind (resetExposure_halfChanged par (modeInfoData par n) d₀)
  intro _
  apply Triple.bind (Q := fun _ _ => True)
  · intro d hd
    have hlo : timingMinVts ≤ d.vblank.cur := by
      rw [hd.cur]
      exact (hd₀ .vblank).le_cur
    have hhi : d.vblank.cur ≤ timingMaxVts - (modeInfoData par n).height := by
      rw [hd.cur, modeInfoData_height]
      exact (hd₀ .vblank).cur_le
    obtain ⟨d', hrun⟩ := v4l2CtrlModifyRange_kept vblankField
      (sCtrl par .vblank) (vblankRangeOk par n) hlo hhi
    rw [hrun]
    trivial
  · exact fun _ => Triple.modify fun _ _ => trivial

/-- The mode that the interval selects is found before anything changes. -/
theorem findModeByIval_selects (t : Fract) {d₀ : Device} (current : Fin 3) :
    Triple (fun d => d = d₀ ∧ current = d₀.currentMode)
      (findModeByIval par (modeInfoData par current) t)
      (fun n d => d = d₀ ∧
        ModeCall.Selects par nearest d₀ n (.frameInterval t))
      (fun _ d => Unchanged d₀ d) := by
  rintro d ⟨rfl, rfl⟩
  have hstate := findModeByIval_state par (modeInfoData par d.currentMode) t d
  rcases hfind : findModeByIval par (modeInfoData par d.currentMode) t
    d with ⟨_ | n, d'⟩
  · rw [hfind] at hstate
    exact Unchanged.of_settings (congrArg _ hstate)
  · rw [hfind] at hstate
    exact ⟨hstate, congrArg Prod.fst hfind⟩

theorem format_halfChanged (w h : ℕ) {d₀ : Device} (hd₀ : Bounded d₀) :
    Triple (fun d => d = d₀) (ModeCall.request par nearest (.format w h))
      (fun _ _ => True)
      (fun _ d => Unchanged d₀ d ∨
        ∃ n, ModeCall.Selects par nearest d₀ n (.format w h) ∧
          HalfChanged (modeInfoData par n) d₀ d) := by
  refine Triple.bind (Q := fun _ _ => True) ?_ fun _ =>
    Triple.pure fun _ _ => trivial
  apply Triple.bind (Q := fun _ d => d.settings = d₀.settings)
  · apply Triple.modify
    rintro d rfl
    exact congrArg (Prod.mk d.currentMode)
      (funext fun i => by cases i <;> rfl)
  intro _
  apply Triple.bind (Q := fun _ _ => True)
  · apply (setActiveMode_halfChanged par (nearest w h) hd₀).consequence
      (fun _ hd => hd) (fun _ _ hd => hd)
    exact fun _ d hd => hd.imp_right fun hd => ⟨nearest w h, rfl, hd⟩
  intro _
  apply Triple.bind (Q := fun _ _ => True)
  · exact Triple.modify fun _ _ => trivial
  · exact fun _ => Triple.gets fun _ _ => trivial

theorem frameInterval_halfChanged (t : Fract) (d₀ : Device) :
    Triple (fun d => d = d₀) (ModeCall.request par nearest (.frameInterval t))
      (fun _ _ => True)
      (fun _ d => Unchanged d₀ d ∨
        ∃ n, ModeCall.Selects par nearest d₀ n (.frameInterval t) ∧
          HalfChanged (modeInfoData par n) d₀ d) := by
  refine Triple.bind (Q := fun _ _ => True) ?_ fun _ =>
    Triple.pure fun _ _ => trivial
  apply Triple.bind (Q := fun current d => d = d₀ ∧
    current = d₀.currentMode)
  · apply Triple.gets
    rintro d rfl
    exact ⟨rfl, rfl⟩
  intro current
  apply Triple.bind
  · exact (findModeByIval_selects par nearest t current).consequence
      (fun _ hd => hd) (fun _ _ hd => hd) fun _ _ hd => Or.inl hd
  intro n
  refine Triple.bind (Q := fun _ _ => True) ?_ fun _ =>
    Triple.gets fun _ _ => trivial
  apply Triple.when
  · intro _
    apply Triple.of_fact
    intro hselects
    apply Triple.bind (Q := fun _ _ => True)
    · refine (resetExposure_halfChanged par (modeInfoData par n)
        d₀).consequence ?_ (fun _ _ _ => trivial) ?_
      · rintro d rfl
        rfl
      · exact fun _ d hd => hd.imp_right fun hd => ⟨n, hselects, hd⟩
    · exact fun _ => Triple.modify fun _ _ => trivial
  · exact fun _ _ _ => trivial

theorem request_halfChanged (c : ModeCall) {d₀ : Device} (hd₀ : Bounded d₀) :
    Triple (fun d => d = d₀) (c.request par nearest) (fun _ _ => True)
      (fun _ d => Unchanged d₀ d ∨ ∃ n, c.Selects par nearest d₀ n ∧
        HalfChanged (modeInfoData par n) d₀ d) := by
  cases c with
  | format w h => exact format_halfChanged par nearest w h hd₀
  | frameInterval t => exact frameInterval_halfChanged par nearest t d₀

/-- In every state that a run reaches, a mode change that fails leaves the mode,
the gain and the vertical blanking as they were, and the exposure as it was or
with the range of the mode that was to be selected. -/
theorem request_fails (board : Board) (calls : List (List Bool × SysCall))
    (os : List Bool) (c : ModeCall) {e : Fault}
    (he : (c.request par nearest ((run (sysStep par nearest)
      (probe par nearest board) calls).facing os)).1 = .error e) :
    let d := (run (sysStep par nearest) (probe par nearest board) calls).facing
      os
    Unchanged d (c.request par nearest d).2 ∨
      ∃ n, c.Selects par nearest d n ∧
        HalfChanged (modeInfoData par n) d (c.request par nearest d).2 := by
  have hbounded := (run_bounded par nearest board calls).of_controls
    (facing_controls _ os)
  have h := request_halfChanged par nearest c hbounded _ rfl
  revert he h
  dsimp only
  rcases c.request par nearest ((run (sysStep par nearest)
    (probe par nearest board) calls).facing os) with ⟨e' | _, d'⟩
  · exact fun _ h => h
  · intro he
    cases he

end Parameters

/-- A sensor that streams with an exposure of 1000 lines. -/
def longExposure : List (List Bool × SysCall) :=
  [([], .stream false true), ([], .call (.write .exposure 1000))]

/-- A request for 60 frames a second whose first transfer fails. -/
theorem request_fails_streaming :
    Unchanged
        ((run (sysStep stockParams fun _ _ => initialMode)
          (probe stockParams (fun _ _ => initialMode) plainBoard)
            longExposure).facing [true])
        ((ModeCall.frameInterval ⟨1, 60⟩).request stockParams
          (fun _ _ => initialMode)
          ((run (sysStep stockParams fun _ _ => initialMode)
            (probe stockParams (fun _ _ => initialMode) plainBoard)
              longExposure).facing [true])).2 ∨
      ∃ n, (ModeCall.frameInterval ⟨1, 60⟩).Selects stockParams
          (fun _ _ => initialMode)
          ((run (sysStep stockParams fun _ _ => initialMode)
            (probe stockParams (fun _ _ => initialMode) plainBoard)
              longExposure).facing [true]) n ∧
        HalfChanged (modeInfoData stockParams n)
          ((run (sysStep stockParams fun _ _ => initialMode)
            (probe stockParams (fun _ _ => initialMode) plainBoard)
              longExposure).facing [true])
          ((ModeCall.frameInterval ⟨1, 60⟩).request stockParams
            (fun _ _ => initialMode)
            ((run (sysStep stockParams fun _ _ => initialMode)
              (probe stockParams (fun _ _ => initialMode) plainBoard)
                longExposure).facing [true])).2 :=
  request_fails stockParams (fun _ _ => initialMode) plainBoard longExposure
    [true] (.frameInterval ⟨1, 60⟩) (e := .errno .eio) (by decide +kernel)

/-- After that failure the exposure has the range of the mode that was not
selected. -/
theorem failsAtomically_fails :
    ¬ ∀ (par : Params) (nearest : ℕ → ℕ → Fin 3) (board : Board)
        (calls : List (List Bool × SysCall)) (os : List Bool) (c : ModeCall),
        FailsAtomically par nearest c ((run (sysStep par nearest)
          (probe par nearest board) calls).facing os) := by
  intro h
  have hunchanged := h stockParams (fun _ _ => initialMode) plainBoard
    longExposure [true] (.frameInterval ⟨1, 60⟩) (.errno .eio)
    (by decide +kernel)
  have hmaximum := hunchanged.exposure.maximum
  revert hmaximum
  decide +kernel

end Ov7251
end SurfaceCameras
