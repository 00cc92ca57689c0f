import SurfaceCameras.Ov7251.Encoding
import SurfaceCameras.Ov7251.StartImage

/-!
# Starts of the OV7251 on a sensor that has been used

From the probe on, user space selects modes, sets controls and starts and stops
streams; transfers fail, and the sensor is powered down and up again.  A start
that succeeds then leaves in every register what it would have left there right
after the probe, given the mode and the controls.
-/

namespace SurfaceCameras
namespace Ov7251

open Kernel Device Prog Runs MaskedWrites

/-! ## What stays between two starts -/

/-- Starting a sensor that is resumed writes the registers of the driver. -/
theorem startResumed_stays {F : Frame Device} {A : ℕ → Prop} (hF : Admits F A)
    (hA : ∀ a ∈ driverRegisters, A a)
    (hput : ∀ d, F.Rel d (pmField.update RuntimePm.put d)) (par : Params)
    (hasLed : Bool) : Stays F (startResumed par hasLed) := by
  have hbus := hF.toAdmitsBus
  have hpll : ∀ a ∈ [0x30b4, 0x30b3, 0x30b1, 0x30b0, 0x30b5, 0x3098, 0x3099,
      0x309d, 0x309a, 0x309b], A a := fun a ha =>
    hA a (List.mem_append_left _ (List.mem_append_left _ ha))
  have hctrl : ∀ a ∈ ctrlRegisters, A a := fun a ha =>
    hA a (List.mem_append_right _ (List.mem_cons_of_mem _ ha))
  have hrest : ∀ a ∈ [0x0100, 0x3005, 0x3b81], a ∈ driverRegisters := by
    decide
  apply Keeps.tryCatch (S := fun _ => True)
  · refine (pllConfigure_stays hbus par hpll).bind fun _ => ?_
    refine (Keeps.gets _).bind fun mode => ?_
    refine (setRegisterArray_stays hbus fun x hx =>
      hA _ (data_registers par mode x hx)).bind fun _ => ?_
    refine (handlerSetup_stays hF hctrl par).bind fun _ => ?_
    exact (writeReg_stays hbus (hA _ (hrest _ (by decide))) _).bind fun _ =>
      irLedSet_stays hbus (hA _ (hrest _ (by decide)))
        (hA _ (hrest _ (by decide))) _ _
  · exact fun e _ => (Keeps.modify hput).bind fun _ => Keeps.raise trivial

theorem stop_stays {F : Frame Device} {A : ℕ → Prop}
    (hF : AdmitsBus busField F A)
    (hA : ∀ a ∈ [0x0100, 0x3005, 0x3b81], A a)
    (hput : ∀ d, F.Rel d (pmField.update RuntimePm.put d)) (par : Params)
    (hasLed : Bool) : Stays F (sStream par hasLed false) := by
  refine Keeps.bind ?_ fun _ => ?_
  · exact (irLedSet_stays hF (hA _ (by decide)) (hA _ (by decide)) _
      _).tryCatch fun _ _ => Keeps.pure ()
  · exact (writeReg_stays hF (hA _ (by decide)) _).tryFinally
      (Keeps.modify hput)

theorem confined_put (C : List ℕ) (d : Device) :
    Confined C d (pmField.update RuntimePm.put d) :=
  ⟨rfl, rfl, rfl, fun _ _ => rfl⟩

/-- The clock and the link are what they were at probe. -/
def Device.clocks (d : Device) : XclkRate × ℕ := (d.xclkRate, d.linkFreqIdx)

theorem clocks_admits :
    AdmitsPower (Frame.fixing Device.clocks) fun _ => True where
  outcomes _ _ := rfl
  store _ _ _ _ := rfl
  preIsp00 _ _ := rfl
  timingFormat1 _ _ := rfl
  timingFormat2 _ _ := rfl
  hold _ _ _ h := h
  validateNew _ i := by cases i <;> rfl
  newToCur _ i := by cases i <;> rfl
  curToNew _ i := by cases i <;> rfl
  setVal _ i _ _ := by cases i <;> rfl
  exposureRange _ _ _ _ _ _ := rfl
  pm _ _ := rfl
  power _ _ := rfl

section Parameters

variable (par : Params) (nearest : ℕ → ℕ → Fin 3) {r : Registers} {a : ℕ}

theorem fresh_of_confined {α : Type} {p : Prog Device Fault α}
    (hp : Stays (confined driverRegisters) p) (ha : a ∉ driverRegisters) :
    Triple (FreshAt r a) p (fun _ => FreshAt r a) (fun _ => FreshAt r a) := by
  apply (hp.triple (P := FreshAt r a) ?_).consequence
    (fun _ h => h) (fun _ _ h => h) fun _ _ h => h.1
  intro d d' hconfined hd
  exact hd.congr (hconfined.regs a ha) hconfined.active

/-- A start whose resume has succeeded leaves the sensor resumed. -/
theorem start_fresh (ha : a ∉ driverRegisters) (hasLed : Bool) :
    Triple (FreshAt r a) (sStream par hasLed true)
      (fun _ d => FreshAt r a d ∧ d.pm.active = true) (fun _ => FreshAt r a) := by
  have hstart : Stays (confined driverRegisters) (startResumed par hasLed) :=
    startResumed_stays (confined_admits _) (fun _ h => h) (confined_put _) par
      hasLed
  rw [sStream_true]
  apply Triple.bind resume_fresh
  intro _
  apply (hstart.triple (P := fun d => FreshAt r a d ∧ d.pm.active = true)
    ?_).consequence (fun _ h => h) (fun _ _ h => h) fun _ _ h => h.1.1
  rintro d d' hconfined ⟨hd, hon⟩
  exact ⟨hd.congr (hconfined.regs a ha) hconfined.active,
    hconfined.active.trans hon⟩

theorem stop_fresh (ha : a ∉ driverRegisters) (hasLed : Bool) :
    Triple (FreshAt r a) (sStream par hasLed false) (fun _ => FreshAt r a)
      (fun _ => FreshAt r a) := by
  have hrest : ∀ x ∈ [0x0100, 0x3005, 0x3b81], x ∈ driverRegisters := by
    decide
  exact fresh_of_confined (stop_stays (confined_admits _).toAdmitsBus hrest
    (confined_put _) par hasLed) ha

theorem autosuspend_fresh :
    Triple (FreshAt r a) (autosuspend r) (fun _ => FreshAt r a)
      (fun _ => FreshAt r a) := by
  apply Triple.gets_bind
  intro pm
  apply Triple.ite
  · intro _ d _
    exact ⟨fun _ => rfl, fun hon => by cases hon⟩
  · intro _
    apply Triple.modify
    rintro d ⟨hd, -⟩
    exact ⟨hd.1, hd.2⟩

theorem setFormat_fresh (ha : a ∉ driverRegisters) (w h : ℕ) :
    Triple (FreshAt r a) (setFormat par nearest .active w h)
      (fun _ => FreshAt r a) (fun _ => FreshAt r a) := by
  apply fresh_of_confined ?_ ha
  apply setFormat_stays (confined_admits _)
  · exact fun x hx => List.mem_append_right _ (List.mem_cons_of_mem _ hx)
  · exact fun _ _ => ⟨rfl, rfl, rfl, fun _ _ => rfl⟩
  · exact fun _ _ => ⟨rfl, rfl, rfl, fun _ _ => rfl⟩
  · exact fun _ => ⟨rfl, rfl, rfl, fun _ _ => rfl⟩

/-- Every call leaves the registers fresh that the driver does not write, as
long as the sensor loses them to the same values. -/
theorem sysStep_fresh (ha : a ∉ driverRegisters) {d : Device}
    (hd : FreshAt r a d) (x : List Bool × SysCall)
    (hx : ∀ lost, x.2 = .autosuspend lost → lost = r) :
    FreshAt r a (sysStep par nearest d x) := by
  obtain ⟨os, c⟩ := x
  have hfacing : FreshAt r a (d.facing os) := hd.congr rfl rfl
  have hadmits := confined_admits driverRegisters
  have hctrl : ∀ x ∈ ctrlRegisters, x ∈ driverRegisters := fun x hx =>
    List.mem_append_right _ (List.mem_cons_of_mem _ hx)
  match c with
  | .call (.setFormat w h) =>
      exact (setFormat_fresh par nearest ha w h).final hfacing
  | .call (.setFrameInterval t) =>
      have hstay := setFrameInterval_stays hadmits hctrl par
        (fun _ _ => ⟨rfl, rfl, rfl, fun _ _ => rfl⟩) t
      exact (fresh_of_confined hstay ha).final hfacing
  | .call (.write i v) =>
      have hstay := writeControl_stays hadmits hctrl par (i := i) v
        fun _ _ => by cases i <;> exact ⟨rfl, rfl, rfl, fun _ _ => rfl⟩
      exact (fresh_of_confined hstay ha).final hfacing
  | .stream hasLed true =>
      exact ((start_fresh par ha hasLed).consequence (fun _ h => h)
        (fun _ _ h => h.1) fun _ _ h => h).final hfacing
  | .stream hasLed false => exact (stop_fresh par ha hasLed).final hfacing
  | .autosuspend lost =>
      obtain rfl := hx lost rfl
      exact autosuspend_fresh.final hfacing

/-- No call changes the clocks. -/
theorem sysStep_clocks (d : Device) (x : List Bool × SysCall) :
    (sysStep par nearest d x).clocks = d.clocks := by
  obtain ⟨os, c⟩ := x
  have hadmits := clocks_admits
  have hall : ∀ x ∈ ctrlRegisters, True := fun _ _ => trivial
  match c with
  | .call (.setFormat w h) =>
      have hstay : Stays (Frame.fixing Device.clocks)
          (setFormat par nearest .active w h) :=
        setFormat_stays hadmits.toAdmits hall par (fun _ _ => rfl)
          (fun _ _ => rfl) fun _ => rfl
      exact hstay.fixed (d.facing os)
  | .call (.setFrameInterval t) =>
      exact (setFrameInterval_stays hadmits.toAdmits hall par (fun _ _ => rfl)
        t).fixed (d.facing os)
  | .call (.write i v) =>
      have hstay := writeControl_stays hadmits.toAdmits hall par (i := i) v
        fun _ _ => by cases i <;> rfl
      exact hstay.fixed (d.facing os)
  | .stream hasLed enable =>
      exact (sStream_stays hadmits par hasLed enable).fixed (d.facing os)
  | .autosuspend lost =>
      exact (autosuspend_stays (fun _ _ => rfl) (fun _ _ => rfl)
        (fun _ _ => rfl) lost).fixed (d.facing os)

/-- What is known of every device in a run from the probe of a board whose
registers read `r` after a reset. -/
structure Aged (board : Board) (r : Registers) (d : Device) : Prop where
  clocks : d.clocks = (initCtrls par board).clocks
  fresh : ∀ a, a ∉ driverRegisters → FreshAt r a d

theorem probe_aged {board : Board} (hboard : board.regs = initialized r) :
    Aged par board r (probe par nearest board) := by
  rw [probe_eq]
  constructor
  · have hstay : Stays (Frame.fixing Device.clocks)
        (setFormat par nearest .active 640 480) :=
      setFormat_stays clocks_admits.toAdmits (fun _ _ => trivial) par
        (fun _ _ => rfl) (fun _ _ => rfl) fun _ => rfl
    exact hstay.fixed (initCtrls par board)
  · intro a ha
    have hregs : (initCtrls par board).bus.regs = initialized r := hboard
    have hinit : FreshAt r a (initCtrls par board) := by
      refine ⟨fun hno => ?_, fun _ => ?_⟩
      · rw [hregs, initialized_of_notMem hno]
      · rw [hregs]
    exact (setFormat_fresh par nearest ha 640 480).final hinit

/-- The sensor loses its registers to `r` in every suspend among the calls. -/
def LosesTo (r : Registers) (calls : List (List Bool × SysCall)) : Prop :=
  ∀ x ∈ calls, ∀ lost, x.2 = .autosuspend lost → lost = r

theorem run_aged {board : Board} (hboard : board.regs = initialized r)
    {calls : List (List Bool × SysCall)} (hcalls : LosesTo r calls) :
    Aged par board r (run (sysStep par nearest) (probe par nearest board)
      calls) := by
  apply run_invariant ?_ (probe_aged par nearest hboard)
    (along_of_forall hcalls _)
  intro d x hd hx
  refine ⟨(sysStep_clocks par nearest d x).trans hd.clocks, fun a ha => ?_⟩
  exact sysStep_fresh par nearest ha (hd.fresh a ha) x hx

/-! ## What a start writes -/

variable {C : List ℕ}

/-- The mode is still to be looked up when the clocks are configured. -/
theorem setRegisterArray_keeps_mode (table : List RegValue) (mode : Fin 3) :
    Triple (fun d => HoldsOutside C r d ∧ d.currentMode = mode)
      (setRegisterArray table)
      (fun _ d => HoldsOutside C (applyAll (tableWrites table) r) d ∧
        d.currentMode = mode) (fun _ _ => True) := by
  have hstay : Stays (Frame.fixing Device.currentMode)
      (setRegisterArray table) :=
    setRegisterArray_stays currentMode_admits.toAdmitsBus fun _ _ => trivial
  have hmode := hstay.triple (P := fun d => d.currentMode = mode) ?_
  · exact ((setRegisterArray_outside C r table).and hmode).consequence
      (fun _ h => h) (fun _ _ h => h) fun _ _ _ => trivial
  · intro d d' hsame hd
    have hsame : d'.currentMode = d.currentMode := hsame
    rwa [hsame]

theorem handlerSetup_outside :
    Triple (HoldsOutside ctrlRegisters r) (handlerSetup par)
      (fun _ => HoldsOutside ctrlRegisters r) (fun _ _ => True) := by
  have hstay : Stays (confined ctrlRegisters) (handlerSetup par) :=
    handlerSetup_stays (confined_admits ctrlRegisters) (fun _ h => h) par
  apply (hstay.triple (P := HoldsOutside ctrlRegisters r) ?_).consequence
    (fun _ h => h) (fun _ _ h => h) fun _ _ _ => trivial
  intro d d' hconfined hd a ha
  rw [hconfined.regs a ha, hd a ha]

theorem irLedSet_outside (hasLed : Bool) :
    Triple (HoldsOutside C r) (irLedSet hasLed true)
      (fun _ => HoldsOutside C (applyAll (tableWrites
        (if hasLed = true then [(0x3005, 0x08), (0x3b81, 0xff)] else [])) r))
      (fun _ _ => True) := by
  apply Triple.when
  · intro hled
    rw [if_pos hled, tableWrites, List.map_cons, List.map_cons, List.map_nil,
      applyAll_cons, applyAll_cons, applyAll_nil, byte_apply, byte_apply]
    exact Triple.bind (writeReg_outside C r 0x3005 0x08) fun _ =>
      writeReg_outside C _ 0x3b81 0xff
  · intro hled d hd
    rwa [if_neg hled]

/-- The tables reach the sensor whole, and in this order. -/
theorem startResumed_writes (hasLed : Bool) (d : Device) :
    Triple (fun d' => d' = d) (startResumed par hasLed)
      (fun _ => HoldsOutside ctrlRegisters (applyAll (tableWrites
        (startTable par hasLed d.xclkRate d.linkFreqIdx d.currentMode))
          d.bus.regs)) (fun _ _ => True) := by
  have htable : ∀ r : Registers, applyAll (tableWrites (startTable par hasLed
      d.xclkRate d.linkFreqIdx d.currentMode)) r =
    applyAll (tableWrites
        (if hasLed = true then [(0x3005, 0x08), (0x3b81, 0xff)] else []))
      (Function.update (applyAll (tableWrites
        (modeInfoData par d.currentMode).data) (applyAll (tableWrites
          (pllRegs par d.xclkRate d.linkFreqIdx)) r)) 0x0100 0x1) := by
    intro r
    rw [startTable, tableWrites_append, tableWrites_append, tableWrites,
      List.map_cons, applyAll_cons, byte_apply]
    rfl
  apply Triple.tryCatch (J := fun _ _ => True)
  · rw [htable]
    apply Triple.bind (Q := fun _ d' => HoldsOutside ctrlRegisters
      (applyAll (tableWrites (pllRegs par d.xclkRate d.linkFreqIdx))
        d.bus.regs) d' ∧ d'.currentMode = d.currentMode)
    · apply Triple.gets_bind
      intro rate
      apply Triple.gets_bind
      intro idx
      rintro d' ⟨⟨rfl, rfl⟩, rfl⟩
      exact setRegisterArray_keeps_mode _ _ d' ⟨fun _ _ => rfl, rfl⟩
    intro _
    apply Triple.gets_bind
    intro mode
    apply Triple.with_fact (c := mode = d.currentMode)
    · rintro d' ⟨⟨-, hmode⟩, rfl⟩
      exact hmode
    rintro rfl
    apply Triple.bind ((setRegisterArray_outside ctrlRegisters _
      _).strengthenPre fun _ h => h.1.1)
    intro _
    apply Triple.bind (handlerSetup_outside par)
    intro _
    apply Triple.bind (writeReg_outside ctrlRegisters _ 0x0100 0x1)
    exact fun _ => irLedSet_outside hasLed
  · exact fun e => Triple.rethrow _ e

/-- So they do in a start, whatever the registers hold once the sensor is
resumed. -/
theorem start_writes (hasLed : Bool) {d : Device} :
    Triple (fun d' => d' = d) (sStream par hasLed true)
      (fun _ d' => ∃ r, HoldsOutside ctrlRegisters (applyAll (tableWrites
        (startTable par hasLed d.xclkRate d.linkFreqIdx d.currentMode)) r) d')
      (fun _ _ => True) := by
  let mark : Device → (XclkRate × ℕ) × Fin 3 := fun d =>
    (d.clocks, d.currentMode)
  have hmark : Stays (Frame.fixing mark)
      (pmRuntimeResumeAndGet pmField setPowerOn) :=
    resumeAndGet_stays ⟨fun _ _ => rfl, fun _ _ _ _ => rfl⟩ (fun _ _ => rfl)
      fun _ _ => rfl
  rw [sStream_true]
  apply Triple.bind (Q := fun _ d' => mark d' = mark d)
  · apply (hmark d).consequence ?_ (fun _ _ h => h) fun _ _ _ => trivial
    rintro d' rfl
    rfl
  · intro _ d' hd'
    obtain ⟨hclocks, hmode⟩ := Prod.mk.inj hd'
    obtain ⟨hrate, hidx⟩ := Prod.mk.inj hclocks
    have hrun := startResumed_writes par hasLed d' d' rfl
    rw [hrate, hidx, hmode] at hrun
    revert hrun
    rcases startResumed par hasLed d' with ⟨_ | _, d''⟩
    · exact id
    · exact fun hheld => ⟨_, hheld⟩

/-! ## What a start leaves of the controls -/

theorem resume_inUse :
    Triple (fun _ => True) (pmRuntimeResumeAndGet pmField setPowerOn)
      (fun _ d => d.pm.InUse) (fun _ _ => True) := by
  have hresume : Stays (Frame.fixing pmField.get) setPowerOn :=
    setPowerOn_stays pm_admits.toAdmitsBus (fun _ _ => rfl) fun _ _ => trivial
  intro d _
  have husage := pmRuntimeResumeAndGet_usage hresume d.pm.usage
  apply husage.consequence (fun _ h => h) ?_ (fun _ _ _ => trivial) d rfl
  rintro _ d' ⟨hactive, hcount⟩
  have hcount : d'.pm.usage = d.pm.usage + 1 := hcount
  exact ⟨hactive, hcount ▸ Nat.succ_pos _⟩

theorem inUse_of_stays {α : Type} {p : Prog Device Fault α}
    (hp : Stays (Frame.fixing Device.pm) p) :
    Triple (fun d => d.pm.InUse) p (fun _ d => d.pm.InUse)
      (fun _ _ => True) := by
  apply (hp.triple (P := fun d => d.pm.InUse) ?_).consequence
    (fun _ h => h) (fun _ _ h => h) fun _ _ _ => trivial
  intro d d' hsame hd
  have hsame : d'.pm = d.pm := hsame
  rwa [hsame]

/-- A start that succeeds shows every control that has registers of its own. -/
theorem start_shows (k : WordCtrl) (hasLed : Bool) :
    Triple (fun _ => True) (sStream par hasLed true) (fun _ => k.Shows)
      (fun _ _ => True) := by
  have hview := wordView_admitsBus k
  have haddr : ∀ x ∈ [0x0100, 0x3005, 0x3b81], x ∉ ctrlAddrs k.id := by
    cases k <;> decide
  have hbus := pm_admits.toAdmitsBus
  refine Triple.bind resume_inUse fun _ => ?_
  apply Triple.tryCatch (J := fun _ _ => True)
  · refine Triple.bind (inUse_of_stays (pllConfigure_stays hbus par
      fun _ _ => trivial)) fun _ => ?_
    refine Triple.bind (Q := fun _ d => d.pm.InUse) (Triple.gets fun _ h => h)
      fun mode => ?_
    refine Triple.bind (inUse_of_stays (setRegisterArray_stays hbus
      fun _ _ => trivial)) fun _ => ?_
    refine Triple.bind (handlerSetup_shows par k) fun _ => ?_
    have hlast : Stays (Frame.fixing k.view)
        (writeReg 0x0100 0x1 >>= fun _ => irLedSet hasLed true) :=
      (writeReg_stays hview (haddr _ (by decide)) _).bind fun _ =>
        irLedSet_stays hview (haddr _ (by decide)) (haddr _ (by decide)) _ _
    exact (wordView_of_stays k hlast (P := fun w => w.pm.InUse ∧
      w.cells = k.bytes w.ctrl.cur)).consequence (fun _ h => h)
        (fun _ _ h => h) fun _ _ _ => trivial
  · exact fun e => Triple.rethrow _ e

end Parameters

theorem CachedCtrl.Coheres.register_eq {k : CachedCtrl} {v : BitVec 8} {x : ℤ}
    {w : CachedView} (h : k.Coheres v true x w) :
    w.register = flagged k.bit (w.ctrl.cur ≠ 0) v := by
  obtain ⟨-, hregister, hbit⟩ := h.shows rfl
  rw [hregister]
  apply eq_of_masked (m := k.bit)
  · rw [hbit, flagged_and, h.applied, ite_not]
  · rw [h.rest, flagged_and_not]

/-- The bytes that show a value of a control. -/
def ctrlBytes (board : Board) : CtrlId → ℤ → List (BitVec 8)
  | .hflip, v => [flagged 0x04 (v ≠ 0) board.timingFormat2]
  | .vflip, v => [flagged 0x04 (v ≠ 0) board.timingFormat1]
  | .testPattern, v => [flagged 0x80 (v ≠ 0) board.preIsp00]
  | .exposure, v => WordCtrl.exposure.bytes v
  | .analogueGain, v => WordCtrl.gain.bytes v
  | .vblank, v => WordCtrl.vblank.bytes v

/-- The registers that show the values of all controls. -/
def ctrlTable (board : Board) (vals : CtrlId → ℤ) : List RegValue :=
  writableCtrls.flatMap fun i =>
    (ctrlAddrs i).zip (ctrlBytes board i (vals i))

theorem ctrlTable_registers (board : Board) (vals : CtrlId → ℤ) :
    (ctrlTable board vals).map Prod.fst = writableCtrls.flatMap ctrlAddrs := rfl

section Parameters

variable (par : Params) (nearest : ℕ → ℕ → Fin 3) {r : Registers}

/-- What a start leaves on a sensor whose registers read `r` after a reset. -/
def startImage (board : Board) (r : Registers) (hasLed : Bool) (mode : Fin 3)
    (vals : CtrlId → ℤ) : Registers :=
  let d := initCtrls par board
  applyAll (tableWrites (startTable par hasLed d.xclkRate d.linkFreqIdx mode ++
    ctrlTable board vals)) (initialized r)

variable {board : Board} {calls : List (List Bool × SysCall)} {os : List Bool}
  {hasLed : Bool} {d : Device}

/-- After a start, the registers of every control show it. -/
theorem start_controls
    (hstart : sStream par hasLed true ((run (sysStep par nearest)
      (probe par nearest board) calls).facing os) = (.ok (), d)) (i : CtrlId) :
    (ctrlAddrs i).map d.bus.regs = ctrlBytes board i (d.controls i).cur := by
  have hword : ∀ k : WordCtrl, k.Shows d := by
    intro k
    have hrun := start_shows par k hasLed ((run (sysStep par nearest)
      (probe par nearest board) calls).facing os) trivial
    rw [hstart] at hrun
    exact hrun
  have hcached : ∀ k : CachedCtrl, ∃ x,
      k.Coheres (k.atProbe board) true x (k.view d) := by
    intro k
    have hcoherent := run_induction (I := k.Coherent board)
      (fun _ x hs => watch_coherent k par nearest hs x)
        (probed_coherent k par nearest board) calls
    have hdev : (run (watch par nearest) (probed par nearest board) calls).dev =
        run (sysStep par nearest) (probe par nearest board) calls :=
      run_map (f := Watched.dev) (fun _ _ => rfl) _ calls
    have hfacing := hcoherent.facing k os
    rw [hdev] at hfacing
    have hrun := streamOn_coheres k par hasLed _ hfacing
    rw [hstart] at hrun
    exact ⟨_, hrun⟩
  have hbit : ∀ k : CachedCtrl, d.bus.regs k.reg =
      flagged k.bit ((d.controls k.id).cur ≠ 0) (k.atProbe board) := by
    intro k
    obtain ⟨x, hk⟩ := hcached k
    exact hk.register_eq
  match i with
  | .hflip => exact congrArg (fun v => [v]) (hbit .hflip)
  | .vflip => exact congrArg (fun v => [v]) (hbit .vflip)
  | .testPattern => exact congrArg (fun v => [v]) (hbit .testPattern)
  | .exposure => exact (hword .exposure).2
  | .analogueGain => exact (hword .gain).2
  | .vblank => exact (hword .vblank).2

/-! ## The image -/

/-- A control register of the image shows its control. -/
theorem startImage_ctrl {mode : Fin 3} {vals : CtrlId → ℤ} {i : CtrlId} {a : ℕ}
    {v : BitVec 8} (hv : (a, v) ∈ (ctrlAddrs i).zip (ctrlBytes board i (vals i))) :
    startImage par board r hasLed mode vals a = v := by
  have honce : ((ctrlTable board vals).map Prod.fst).Nodup := by
    rw [ctrlTable_registers]
    decide
  have hmem : (a, v) ∈ ctrlTable board vals :=
    List.mem_flatMap.mpr ⟨i, by cases i <;> decide, hv⟩
  rw [startImage, tableWrites_append]
  exact applyAll_table_mem honce hmem _

theorem startImage_other {mode : Fin 3} {vals : CtrlId → ℤ} {a : ℕ}
    (ha : a ∉ ctrlRegisters) :
    startImage par board r hasLed mode vals a =
      applyAll (tableWrites (startTable par hasLed (initCtrls par board).xclkRate
        (initCtrls par board).linkFreqIdx mode)) (initialized r) a := by
  rw [startImage, tableWrites_append]
  apply applyAll_of_notMem
  rw [footprint_tableWrites, ctrlTable_registers]
  have hsub : ∀ a ∈ writableCtrls.flatMap ctrlAddrs, a ∈ ctrlRegisters := by
    decide
  exact fun hmem => ha (hsub a hmem)

/-- A start that succeeds leaves the same in the registers whatever came
before it: the tables of the mode and the values of the controls, over what the
sensor reads after a reset. -/
theorem start_leaves_image (hboard : board.regs = initialized r)
    (hcalls : LosesTo r calls)
    (hstart : sStream par hasLed true ((run (sysStep par nearest)
      (probe par nearest board) calls).facing os) = (.ok (), d)) {a : ℕ}
    (hleft : a ≠ 0x4315 ∨ par.winTiming = 0 ∨ d.currentMode ≠ 0) :
    d.bus.regs a = startImage par board r hasLed d.currentMode
      (fun i => (d.controls i).cur) a := by
  have haged := run_aged par nearest hboard hcalls
  generalize hbefore : run (sysStep par nearest) (probe par nearest board)
    calls = d₀ at haged
  by_cases hctrl : a ∈ ctrlRegisters
  · have hown : ∀ a ∈ ctrlRegisters, ∃ i, a ∈ ctrlAddrs i := by
      have hlist : ∀ a ∈ ctrlRegisters, ∃ i ∈ writableCtrls, a ∈ ctrlAddrs i := by
        decide
      intro a ha
      obtain ⟨i, -, hi⟩ := hlist a ha
      exact ⟨i, hi⟩
    obtain ⟨i, hi⟩ := hown a hctrl
    have hbytes := start_controls par nearest hstart i
    symm
    apply startImage_ctrl par (i := i)
    rw [← hbytes, ← List.map_prod_left_eq_zip]
    exact List.mem_map_of_mem hi
  · rw [hbefore] at hstart
    have hmode : d.currentMode = d₀.currentMode := by
      have hstay := (sStream_stays currentMode_admits par hasLed true).fixed
        (d₀.facing os)
      rw [hstart] at hstay
      exact hstay
    have hclocks : d₀.clocks = (initCtrls par board).clocks := haged.clocks
    obtain ⟨hrate, hidx⟩ := Prod.mk.inj hclocks
    rw [startImage_other par hctrl, ← hrate, ← hidx]
    by_cases hdriver : a ∈ driverRegisters
    · have hrun := start_writes par hasLed _ (rfl : d₀.facing os = d₀.facing os)
      rw [hstart] at hrun
      obtain ⟨r', hr'⟩ := hrun
      rw [hr' a hctrl, hmode]
      exact applyAll_table_eq (startTable_registers hdriver hctrl
        (hmode ▸ hleft)) _ _
    · have hfresh : FreshAt r a (d₀.facing os) :=
        (haged.fresh a hdriver).congr rfl rfl
      have hrun := start_fresh par hdriver hasLed _ hfresh
      rw [hstart] at hrun
      rw [hrun.1.resumed hrun.2]
      symm
      apply applyAll_of_notMem
      rw [footprint_tableWrites]
      exact fun hmem => hdriver (startTable_driver hmem)

end Parameters

/-- A sensor whose registers read as ones after a reset. -/
def onesBoard : Board :=
  ⟨.mhz24, 0, initialized fun _ => 0xff, 0, 0, 0⟩

/-- It has streamed in the fastest mode. -/
def usedCalls : List (List Bool × SysCall) :=
  [([], .call (.setFrameInterval ⟨1, 90⟩)), ([], .stream true true),
    ([], .call (.write .vflip 1)), ([], .stream true false)]

/-- After a suspend, a write that fails and a change of the frame rate. -/
def resumedCalls : List (List Bool × SysCall) :=
  usedCalls ++ [([], .autosuspend fun _ => 0xff),
    ([true], .call (.write .hflip 1)),
    ([], .call (.setFrameInterval ⟨1, 30⟩))]

/-- The device after these calls and another start. -/
def restarted (par : Params) (calls : List (List Bool × SysCall)) : Device :=
  (sStream par true true ((run (sysStep par fun _ _ => initialMode)
    (probe par (fun _ _ => initialMode) onesBoard) calls).facing [])).2

theorem restarted_ok :
    sStream stockParams true true ((run (sysStep stockParams fun _ _ =>
      initialMode) (probe stockParams (fun _ _ => initialMode) onesBoard)
        resumedCalls).facing []) = (.ok (), restarted stockParams resumedCalls) := by
  apply Prog.eq_ok
  decide +kernel

theorem start_leaves_image_restarted :
    (restarted stockParams resumedCalls).bus.regs 0x3820 =
      startImage stockParams onesBoard (fun _ => 0xff) true
        (restarted stockParams resumedCalls).currentMode
          (fun i => ((restarted stockParams resumedCalls).controls i).cur)
            0x3820 := by
  have hlost : LosesTo (fun _ => 0xff) resumedCalls := by
    simp [LosesTo, resumedCalls, usedCalls]
  exact start_leaves_image stockParams (fun _ _ => initialMode) rfl hlost restarted_ok
    (Or.inl (by decide))

/-- With the vendor driver's timing, the register that its table leaves out
tells the first start from one after another mode has been streamed. -/
example :
    (restarted ⟨0, 1⟩ []).currentMode = 0 ∧
      (restarted ⟨0, 1⟩ []).bus.regs 0x4315 = 0xff ∧
      (restarted ⟨0, 1⟩ (usedCalls ++
        [([], .call (.setFrameInterval ⟨1, 130⟩))])).currentMode = 0 ∧
      (restarted ⟨0, 1⟩ (usedCalls ++
        [([], .call (.setFrameInterval ⟨1, 130⟩))])).bus.regs 0x4315 = 0x00 := by
  decide +kernel

end Ov7251
end SurfaceCameras
