import SurfaceCameras.Ov7251.FrameRegisters

/-!
# Runs of the OV7251 driver whose transfers all succeed

In such a run the exposure and the frame length in the registers of a sensor in
use are those of the controls, and the exposure keeps within its range.  No
call leaves them apart, not even one that selects a mode while the sensor
streams: all modes have the same height.
-/

namespace SurfaceCameras
namespace Ov7251

open Kernel Device Prog Runs

/-! ## Programs without a failing transfer -/

/-- With every transfer succeeding, the program returns. -/
def Flawless {α : Type} (p : Prog Device Fault α) : Prop :=
  Triple Clean p (fun _ => Clean) fun _ _ => False

namespace Flawless

variable {α β : Type}

theorem modify {f : Device → Device} (h : ∀ d, (f d).bus.faults = d.bus.faults) :
    Flawless (Prog.modify f) :=
  Triple.modify fun d hd => (h d).trans hd

theorem gets (f : Device → α) : Flawless (Prog.gets f) :=
  Triple.gets fun _ hd => hd

theorem bind {p : Prog Device Fault α} {k : α → Prog Device Fault β}
    (hp : Flawless p) (hk : ∀ a, Flawless (k a)) : Flawless (p >>= k) :=
  Triple.bind hp hk

theorem tryCatch {p : Prog Device Fault α} {handler : Fault → Prog Device Fault α}
    (hp : Flawless p) : Flawless (Prog.tryCatch p handler) :=
  Triple.tryCatch hp fun _ _ hs => hs.elim

theorem when {c : Prop} {_ : Decidable c} {p : Prog Device Fault Unit}
    (hp : Flawless p) : Flawless (Prog.when c p) :=
  Triple.when (fun _ => hp) fun _ _ hd => hd

end Flawless

theorem writeReg_flawless (reg : ℕ) (val : BitVec 8) :
    Flawless (writeReg reg val) := by
  intro d hd
  obtain ⟨d', hok, h'⟩ := writeReg_does reg val d hd
  rw [hok]
  exact h'.clean hd

theorem setRegisterArray_flawless (regs : List RegValue) :
    Flawless (setRegisterArray regs) :=
  Triple.forEach regs fun r _ => writeReg_flawless r.1 r.2

theorem setPower_flawless (f : Power → Power) : Flawless (setPower f) :=
  Flawless.modify fun _ => rfl

theorem tryEnable_flawless (f : Power → Power) : Flawless (tryEnable f) := by
  apply Flawless.bind
  · intro d hd
    have hfaults : (busField.get d).faults = [] := hd
    rw [transfer_ok hfaults]
    exact hd
  · exact fun _ => setPower_flawless f

theorem setPowerOn_flawless : Flawless setPowerOn := by
  apply Flawless.bind
  · apply Flawless.bind (tryEnable_flawless _)
    intro _
    apply Flawless.bind (tryEnable_flawless _).tryCatch
    exact fun _ => (tryEnable_flawless _).tryCatch
  intro _
  apply Flawless.bind (tryEnable_flawless _).tryCatch
  intro _
  apply Flawless.bind (setPower_flawless _)
  exact fun _ => (setRegisterArray_flawless _).tryCatch

theorem resumeAndGet_flawless :
    Flawless (pmRuntimeResumeAndGet pmField setPowerOn) := by
  apply Flawless.bind
  · exact Flawless.modify fun _ => rfl
  intro _
  apply Flawless.bind (Flawless.gets _)
  intro p
  apply Triple.ite
  · exact fun _ => Triple.pure fun _ hd => hd
  · intro _
    apply Flawless.tryCatch
    apply setPowerOn_flawless.bind
    exact fun _ => Flawless.modify fun _ => rfl

theorem pllConfigure_flawless (par : Params) : Flawless (pllConfigure par) := by
  apply Flawless.bind (Flawless.gets _)
  intro rate
  apply Flawless.bind (Flawless.gets _)
  exact fun idx => setRegisterArray_flawless _

theorem irLedSet_flawless (hasLed on : Bool) :
    Flawless (irLedSet hasLed on) :=
  ((writeReg_flawless _ _).bind fun _ => writeReg_flawless _ _).when

/-! ## The invariant -/

/-- Any exposure goes with any frame. -/
def anyFrame (_ _ : ℤ) : Prop := True

/-- The exposure lies in its range, which starts at one line. -/
def InRange (_ : ℤ) (x : Ctrl) : Prop :=
  x.Within 1 x.maximum ∧ x.maximum ≤ 65535

theorem inRange_fitting : FrameTiming.Fitting anyFrame InRange where
  within _ hx := hx.1.mono hx.2
  applied v hx := ⟨hx.1.applied v, hx.2⟩
  fits_cur _ := trivial
  shorter _ h := h

theorem inRange_ranged {n m : ℤ} (x : Ctrl) (dflt : ℤ) (hlo : 1 ≤ m)
    (hhi : m ≤ 65535) : InRange n (x.ranged 1 m dflt) :=
  ⟨x.ranged_within hlo dflt, hhi⟩

/-- No transfer fails, and the registers of a sensor in use hold the exposure
and the frame length of the controls. -/
abbrev Synced : Device × Journal → Prop := (timing anyFrame).Holds InRange

/-- What `Synced` depends on. -/
def frameView (d : Device) : Ctrl × Ctrl × RuntimePm × ℕ × ℕ :=
  (d.exposure, d.vblank, d.pm, exposureRegister d, vtsRegister d)

theorem frameView_admits : AdmitsBus busField (Frame.fixing frameView)
    (· ∉ ctrlAddrs .exposure ++ ctrlAddrs .vblank) := by
  apply registers_admits
  intro d b h
  have hexp := exposureRegister_congr d { d with bus := b } fun a ha =>
    h a (List.mem_append_left _ ha)
  have hvts := vtsRegister_congr d { d with bus := b } fun a ha =>
    h a (List.mem_append_right _ ha)
  unfold frameView
  rw [hexp, hvts]

/-- The controls are the same, and so are the registers if the device is still
in use. -/
theorem Synced.of_controls {d d' : Device} {g g' : Journal}
    (hs : Synced (d, g))
    (hclean : Clean d') (hexp : d'.exposure = d.exposure)
    (hvb : d'.vblank = d.vblank)
    (hregs : d'.pm.InUse → d.pm.InUse ∧
      exposureRegister d' = exposureRegister d ∧
        vtsRegister d' = vtsRegister d) : Synced (d', g') := by
  have hexp : (timing anyFrame).exposure.get (d', g') =
      (timing anyFrame).exposure.get (d, g) := hexp
  have hvb : (timing anyFrame).vblank.get (d', g') =
      (timing anyFrame).vblank.get (d, g) := hvb
  refine ⟨⟨hclean, ?_, fun _ _ => trivial⟩, ?_, ?_⟩
  · intro huse'
    obtain ⟨huse, he, hn⟩ := hregs huse'
    obtain ⟨he', hn'⟩ := hs.shows.registers huse
    rw [hexp, hvb, ← he', ← hn']
    exact ⟨congrArg Nat.cast he, congrArg Nat.cast hn⟩
  · rw [hexp, hvb]
    exact hs.good
  · rw [hvb]
    exact hs.vblank

/-- What leaves controls, references and the two registers alone. -/
theorem synced_of_stays {α : Type} {p : Prog Device Fault α} (hp : Flawless p)
    (hstays : Stays (Frame.fixing frameView) p) (g : Journal) :
    Triple (fun d => Synced (d, g)) p (fun _ d => Synced (d, g))
      (fun _ d => Synced (d, g)) := by
  intro d hs
  have hclean := hp d hs.shows.clean
  have hview := hstays.fixed d
  revert hclean hview
  rcases p d with ⟨_ | _, d'⟩
  · exact fun hfalse _ => hfalse.elim
  · intro hclean hview
    have hview : frameView d' = frameView d := hview
    simp only [frameView, Prod.mk.injEq] at hview
    obtain ⟨hexp, hvb, hpm, hregs⟩ := hview
    exact hs.of_controls hclean hexp hvb fun huse => ⟨hpm ▸ huse, hregs⟩

theorem beside_synced {α : Type} {p : Prog Device Fault α} (hp : Flawless p)
    (hstays : Stays (Frame.fixing frameView) p) :
    Triple Synced (Prog.beside p) (fun _ => Synced) (fun _ => Synced) :=
  Triple.beside (synced_of_stays hp hstays)

theorem put_synced (g : Journal) :
    Triple (fun d => Synced (d, g)) (pmRuntimePut pmField)
      (fun _ d => Synced (d, g)) (fun _ d => Synced (d, g)) := by
  apply Triple.modify
  intro d hs
  have hclean : Clean (pmField.update RuntimePm.put d) := hs.shows.clean
  apply hs.of_controls hclean rfl rfl
  rintro ⟨hactive, husage⟩
  exact ⟨⟨hactive, lt_of_lt_of_le husage (Nat.sub_le _ _)⟩, rfl, rfl⟩

section Parameters

variable (par : Params)

/-! ## Calls that select a mode -/

theorem recordAdjust_synced :
    (timing anyFrame).Adjusts InRange (recordAdjust par) := by
  apply recordAdjust_adjusts par inRange_fitting
  intro n n' x dflt _ hn hm
  have hmargin := le_exposureMargin par
  exact inRange_ranged x dflt hm (by omega)

theorem write_synced (i : CtrlId) (v : ℤ) :
    Triple Synced (recordControl par i v) (fun _ => Synced) (fun _ => Synced) :=
  recordControl_holds par inRange_fitting (recordAdjust_synced par) i v

theorem recordReset_synced (n : Fin 3) :
    Triple Synced (recordReset par (modeInfoData par n)) (fun _ => Synced)
      (fun _ => Synced) := by
  apply Triple.bind
  · rw [recordSCtrl_of_ne par (by decide)]
    apply FrameTiming.rangeExposure_holds inRange_fitting
      (recordApply_bringsExposure par)
    exact fun _ x hm _ => inRange_ranged x _ hm (exposureMax_le par n)
  intro _
  apply Triple.bind (write_synced par .exposure _)
  exact fun _ => write_synced par .analogueGain 16

theorem recordMode_synced (n : Fin 3) :
    Triple Synced (recordMode par n) (fun _ => Synced) (fun _ => Synced) := by
  apply Triple.bind (recordReset_synced par n)
  intro _
  apply Triple.bind (Q := fun _ => Synced)
  · rw [modeInfoData_height]
    exact FrameTiming.rangeVblank_holds
  intro _
  exact beside_synced (Flawless.modify fun _ => rfl) (Keeps.modify fun _ => rfl)

theorem recordFormat_synced (nearest : ℕ → ℕ → Fin 3) (w h : ℕ) :
    Triple Synced (recordFormat par nearest w h) (fun _ => Synced)
      (fun _ => Synced) := by
  have hpad : ∀ f, Triple Synced
      (Prog.beside (Prog.modify ((padState .active).update f)))
      (fun _ => Synced) (fun _ => Synced) := fun f =>
    beside_synced (Flawless.modify fun _ => rfl) (Keeps.modify fun _ => rfl)
  apply Triple.bind (hpad _)
  intro _
  apply Triple.bind (recordMode_synced par (nearest w h))
  intro _
  apply Triple.bind (hpad _)
  exact fun _ => Triple.gets fun _ hs => hs

theorem recordInterval_synced (t : Fract) :
    Triple Synced (recordInterval par t) (fun _ => Synced)
      (fun _ => Synced) := by
  apply Triple.bind (Q := fun _ => Synced)
  · exact Triple.gets fun _ hs => hs
  intro current
  apply Triple.bind (Q := fun _ => Synced)
  · have hfind : Stays (Frame.fixing (id : Device → Device))
        (findModeByIval par (modeInfoData par current) t) :=
      findModeByIval_stays par _ t
    apply (Triple.beside_keeps (P := Synced) hfind ?_).consequence
      (fun _ hs => hs) (fun _ _ hs => hs) fun _ _ hs => hs.1
    rintro d d' g hsame hs
    have hsame : d' = d := hsame
    rw [hsame]
    exact hs
  intro n
  apply Triple.bind (Q := fun _ => Synced)
  · apply Triple.when
    · intro _
      apply Triple.bind (recordReset_synced par n)
      intro _
      exact beside_synced (Flawless.modify fun _ => rfl)
        (Keeps.modify fun _ => rfl)
    · exact fun _ _ hs => hs
  · exact fun _ => Triple.gets fun _ hs => hs

/-! ## Starting and stopping the stream -/

/-- No transfer fails, and the controls of the frame are these. -/
structure Steady (x y : Ctrl) (d : Device) : Prop where
  clean : Clean d
  exposure : d.exposure = x
  vblank : d.vblank = y

/-- Before the controls are set up, the registers may hold anything. -/
abbrev Ready (x y : Ctrl) (s : Device × Journal) : Prop := Steady x y s.1

variable {x y : Ctrl}

/-- What leaves the controls alone. -/
theorem steady_of_stays {α : Type} {p : Prog Device Fault α} (hp : Flawless p)
    (hstays : Stays (Frame.fixing Device.controls) p) :
    Triple (Steady x y) p (fun _ => Steady x y) (fun _ _ => False) := by
  intro d hs
  have hclean := hp d hs.clean
  have hctrl := hstays.fixed d
  revert hclean hctrl
  rcases p d with ⟨_ | _, d'⟩
  · exact fun hfalse _ => hfalse
  · intro hclean hctrl
    have hctrl : d'.controls = d.controls := hctrl
    exact ⟨hclean, (congrFun hctrl .exposure).trans hs.exposure,
      (congrFun hctrl .vblank).trans hs.vblank⟩

theorem beside_ready {α : Type} {p : Prog Device Fault α} (hp : Flawless p)
    (hstays : Stays (Frame.fixing Device.controls) p) :
    Triple (Ready x y) (Prog.beside p) (fun _ => Ready x y)
      (fun _ _ => False) :=
  Triple.beside fun _ => steady_of_stays hp hstays

theorem vtsRegister_le (d : Device) : (vtsRegister d : ℤ) ≤ 65535 := by
  have hhigh := (d.bus.regs 0x380e).isLt
  have hlow := (d.bus.regs 0x380f).isLt
  unfold vtsRegister
  omega

theorem setupOther_at {i : CtrlId} {e n : ℤ} (he : i ≠ .exposure)
    (hv : i ≠ .vblank) :
    Triple ((timing anyFrame).At e n x y)
      (Prog.modify ((ctrlField i).aside.update Ctrl.curToNew) >>=
        fun _ => recordSCtrl par i)
      (fun _ => (timing anyFrame).At e n x y) (fun _ _ => False) := by
  rw [recordSCtrl_of_ne par hv]
  apply Triple.bind (Q := fun _ => (timing anyFrame).At e n x y)
  · exact Triple.modify fun s hs => at_updateOther he hv _ hs
  · exact fun _ => recordApply_other par he hv trivial

/-- The handler brings the exposure to the sensor and, last of all, the
vertical blanking. -/
theorem recordSetup_at {e n : ℤ} (hn : n ≤ 65535) (hx : InRange n x)
    (hy : y.Spans timingMinVts (65535 - 480)) :
    Triple ((timing anyFrame).At e n x y) (recordSetup par) (fun _ => Synced)
      (fun _ _ => False) := by
  have hwithin := inRange_fitting.within hn hx
  have hcb : (timing anyFrame).BringsExposure anyFrame
      (recordApply par .exposure) := recordApply_bringsExposure par
  have hexposure := FrameTiming.setupExposure_at (e := e) (n := n) (y := y) hcb
    hwithin.le_cur hwithin.cur_le trivial
  have hvblank := FrameTiming.setupVblank_holds (x := x.curToNew)
    inRange_fitting (recordAdjust_synced par) (recordApply_bringsVblank par) hn
      ⟨hx.1.curToNew, hx.2⟩ hy
  refine Triple.bind (setupOther_at par (i := .hflip) (by decide) (by decide))
    fun _ => ?_
  refine Triple.bind (setupOther_at par (i := .vflip) (by decide) (by decide))
    fun _ => ?_
  refine Triple.bind hexposure fun _ => ?_
  refine Triple.bind (setupOther_at par (i := .analogueGain) (by decide)
    (by decide)) fun _ => ?_
  refine Triple.bind (setupOther_at par (i := .testPattern) (by decide)
    (by decide)) fun _ => ?_
  exact Triple.bind hvblank fun _ => Triple.pure fun _ hs => hs

theorem recordSetup_synced (hx : InRange 0 x)
    (hy : y.Spans timingMinVts (65535 - 480)) :
    Triple (Ready x y) (recordSetup par) (fun _ => Synced)
      (fun _ _ => False) := by
  rintro s ⟨hclean, hexp, hvb⟩
  exact recordSetup_at par (vtsRegister_le s.1) hx hy s
    ⟨⟨hclean, fun _ => ⟨rfl, rfl⟩, fun _ _ => trivial⟩, hexp, hvb⟩

theorem frameView_stream {reg : ℕ} (hreg : reg ∈ [0x0100, 0x3005, 0x3b81]) :
    reg ∉ ctrlAddrs .exposure ++ ctrlAddrs .vblank := by
  revert reg
  decide

theorem streamOff_synced (hasLed : Bool) (g : Journal) :
    Triple (fun d => Synced (d, g)) (sStream par hasLed false)
      (fun _ d => Synced (d, g)) (fun _ d => Synced (d, g)) := by
  have hled := synced_of_stays (irLedSet_flawless hasLed false)
    (irLedSet_stays frameView_admits (frameView_stream (by decide))
      (frameView_stream (by decide)) hasLed false) g
  have hmode := synced_of_stays (writeReg_flawless 0x0100 0x0)
    (writeReg_stays frameView_admits (frameView_stream (by decide)) 0x0) g
  apply Triple.bind (Q := fun _ d => Synced (d, g))
  · exact hled.tryCatch fun _ => Triple.pure fun _ hs => hs
  intro _
  apply hmode.tryFinally
  · exact fun _ => put_synced g
  · exact fun _ _ => put_synced g
  · exact fun _ _ _ hs => hs

theorem recordStream_synced (hasLed enable : Bool) :
    Triple Synced (recordStream par hasLed enable) (fun _ => Synced)
      (fun _ => Synced) := by
  have hctrl := controls_admitsBus
  cases enable with
  | true =>
      apply FrameTiming.Holds.triple
      intro x y hx hy
      apply Triple.bind (Q := fun _ => Ready x y)
      · apply (beside_ready resumeAndGet_flawless (resumeAndGet_stays hctrl
          controls_power controls_pm)).consequence ?_ (fun _ _ hs => hs)
            fun _ _ hs => hs.elim
        exact fun s hs => ⟨hs.shows.clean, hs.exposure, hs.vblank⟩
      intro _
      apply Triple.tryCatch (J := fun _ => Synced)
      · have hready : ∀ {p : Prog Device Fault Unit}, Flawless p →
            Stays (Frame.fixing Device.controls) p →
              Triple (Ready x y) (Prog.beside p) (fun _ => Ready x y)
                (fun _ => Synced) := fun hp hstays =>
          (beside_ready hp hstays).consequence (fun _ hs => hs)
            (fun _ _ hs => hs) fun _ _ hs => hs.elim
        apply Triple.bind (hready (pllConfigure_flawless par)
          (pllConfigure_stays hctrl par fun _ _ => trivial))
        intro _
        apply Triple.bind (Q := fun _ => Ready x y)
        · exact Triple.gets fun _ hs => hs
        intro mode
        apply Triple.bind (hready (setRegisterArray_flawless _)
          (setRegisterArray_stays hctrl fun _ _ => trivial))
        intro _
        apply Triple.bind (Q := fun _ => Synced)
        · exact (recordSetup_synced par hx hy).consequence (fun _ hs => hs)
            (fun _ _ hs => hs) fun _ _ hs => hs.elim
        intro _
        apply Triple.bind (beside_synced (writeReg_flawless 0x0100 0x1)
          (writeReg_stays frameView_admits (frameView_stream (by decide)) 0x1))
        intro _
        exact beside_synced (irLedSet_flawless hasLed true)
          (irLedSet_stays frameView_admits (frameView_stream (by decide))
            (frameView_stream (by decide)) hasLed true)
      · intro e
        apply Triple.beside
        intro g
        apply Triple.bind (put_synced g)
        exact fun _ => Triple.raise fun _ hs => hs
  | false => exact Triple.beside (streamOff_synced par hasLed)

/-- A suspended device is not in use. -/
theorem autosuspend_synced (lost : ℕ → BitVec 8) (g : Journal) :
    Triple (fun d => Synced (d, g)) (autosuspend lost)
      (fun _ d => Synced (d, g)) (fun _ d => Synced (d, g)) := by
  apply Triple.bind (Q := fun _ d => Synced (d, g))
  · exact Triple.gets fun _ hs => hs
  intro pm
  apply Triple.ite
  · intro _
    apply Triple.bind (Q := fun _ d => Synced (d, g))
    · exact Triple.modify fun d hs =>
        hs.of_controls hs.shows.clean rfl rfl fun huse => ⟨huse, rfl, rfl⟩
    intro _
    apply Triple.bind (Q := fun _ d => ∃ r, Synced
      (busField.update (fun b => { b with regs := r }) d, g))
    · exact Triple.modify fun d hs => ⟨d.bus.regs, hs⟩
    intro _
    apply Triple.modify
    rintro d ⟨r, hs⟩
    have hclean : Clean d := hs.shows.clean
    exact hs.of_controls hclean rfl rfl fun huse =>
      absurd huse.1 Bool.false_ne_true
  · exact fun _ => Triple.modify fun d hs =>
      hs.of_controls hs.shows.clean rfl rfl fun huse => ⟨huse, rfl, rfl⟩

/-! ## Runs -/

variable (nearest : ℕ → ℕ → Fin 3)

/-- Every call all of whose transfers succeed. -/
theorem recordStep_synced {s : Device × Journal} (hs : Synced s) (c : SysCall) :
    Synced (recordStep par nearest s ([], c)) := by
  have hs' : Synced (s.1.facing [], s.2) :=
    hs.of_controls rfl rfl rfl fun huse => ⟨huse, rfl, rfl⟩
  cases c with
  | call c =>
      cases c with
      | setFormat w h => exact (recordFormat_synced par nearest w h).final hs'
      | setFrameInterval t => exact (recordInterval_synced par t).final hs'
      | write i v => exact (write_synced par i v).final hs'
  | stream hasLed enable =>
      exact (recordStream_synced par hasLed enable).final hs'
  | autosuspend lost =>
      exact (Triple.beside (autosuspend_synced lost)).final hs'

theorem initCtrls_synced (board : Board) : Synced (initCtrls par board, []) := by
  have hvblank := vblankRangeOk par initialMode
  have hidle : ¬ (initCtrls par board).pm.InUse := fun h =>
    Nat.lt_irrefl 0 h.2
  refine ⟨⟨rfl, fun huse => absurd huse hidle, fun _ _ => trivial⟩, ?_, ?_⟩
  · have hexposure : InRange 0 (Ctrl.newStd 1 32 1 32) :=
      ⟨Ctrl.newStd_within (by decide) le_rfl, by decide⟩
    exact hexposure
  · apply Ctrl.newStd_spans hvblank
    rw [modeInfoData_height]
    exact le_rfl

theorem probe_synced (board : Board) : Synced (probe par nearest board, []) := by
  have hformat := (recordFormat_synced par nearest 640 480).final
    (initCtrls_synced par board)
  have herase := (recordFormat_erases par nearest 640 480).outcome
    (initCtrls par board, [])
  rw [probe_eq, ← herase]
  revert hformat
  rcases (recordFormat par nearest 640 480 (initCtrls par board, [])).2 with
    ⟨d, g⟩
  exact fun hs => hs.of_controls hs.shows.clean rfl rfl fun huse =>
    ⟨huse, rfl, rfl⟩

/-- The calls, none of which meets a failing transfer. -/
def clean (calls : List SysCall) : List (List Bool × SysCall) :=
  calls.map fun c => ([], c)

theorem run_synced (board : Board) (calls : List SysCall) :
    Synced (run (recordStep par nearest) (probe par nearest board, [])
      (clean calls)) := by
  have hsteps : Along (recordStep par nearest) (fun _ x => x.1 = [])
      (probe par nearest board, []) (clean calls) := by
    apply along_of_forall
    intro x hx
    obtain ⟨c, -, rfl⟩ := List.mem_map.mp hx
    rfl
  apply run_invariant (I := Synced) ?_ (probe_synced par nearest board) hsteps
  rintro s ⟨os, c⟩ hs hclean
  have hclean : os = [] := hclean
  rw [hclean]
  exact recordStep_synced par nearest hs c

end Parameters

end Ov7251
end SurfaceCameras
